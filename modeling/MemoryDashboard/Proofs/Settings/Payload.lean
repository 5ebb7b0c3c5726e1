import MemoryDashboard.Settings.Form
import MemoryDashboard.Proofs.Decimal.Text
import MemoryDashboard.Proofs.Json.Canonical
import Mathlib

/-! # Saving the settings form and loading it back

A form is sent as an object with its texts as strings, its switches as booleans and its five
number fields through `numberOrBlank`. The number a field holds (`fieldNumber`) is sent as an
empty string when it is missing, zero or not finite, as an integer when its exact value is a whole
number below `2 ^ 63` in size, and as a float otherwise (`numberOrBlank_classify`).

Loading the sent object back fills each text field with the text of a truthy scalar. A string
comes back as it is, an empty one included, and a switch as it is. A number comes back as its
JSON text, which the form reads as the number that was sent: the decimal text of a whole number
and the shortest text of a float both read back exactly (`numberOrBlank_reload`). So a form saved,
loaded from what it saved, and saved again sends the same object.
-/

namespace MemoryDashboard.Settings

open Decimal Text

/-! ### The number a field sends -/

/-- The numbers the form sends are the finite ones other than zero. -/
theorem usable_iff (x : Float) :
    (!x.isNaN && !x.isInf && x != 0.0) = true ↔ biasedOf x < 2047 ∧ exactValue x ≠ 0 := by
  have range : biasedOf x < 2048 := Nat.mod_lt _ (by norm_num)
  rw [Ne, exactValue_eq_zero_iff]
  simp only [bne, isNaN_eq, isInf_eq, beq_zero_eq]
  simp
  omega

theorem numberOrBlank_of_none {raw : String} (held : fieldNumber raw = none) :
    numberOrBlank raw = Json.str "" := by
  simp [numberOrBlank, held]

theorem numberOrBlank_of_some {raw : String} {x : Float} (held : fieldNumber raw = some x) :
    numberOrBlank raw =
      if (!x.isNaN && !x.isInf && x != 0.0) = true then
        (if (isWhole x && (truncate x).natAbs < Nat.pow 2 63) = true then Json.int (truncate x)
        else Json.float x)
      else Json.str "" := by
  unfold numberOrBlank
  rw [held]
  by_cases usable : (!x.isNaN && !x.isInf && x != 0.0) = true
  · rw [Option.filter_some, if_pos usable, if_pos usable]
  · rw [Option.filter_some, if_neg usable, if_neg usable]

/-- What a number field sends: an empty string when it holds no finite nonzero number, the exact
integer when the number is a whole one below `2 ^ 63` in size, and the float otherwise. -/
theorem numberOrBlank_classify (raw : String) :
    (numberOrBlank raw = Json.str "" ↔
        ∀ x, fieldNumber raw = some x → biasedOf x = 2047 ∨ exactValue x = 0) ∧
      ∀ x, fieldNumber raw = some x → biasedOf x < 2047 → exactValue x ≠ 0 →
        (∀ k : Int, exactValue x = k → k.natAbs < 2 ^ 63 → numberOrBlank raw = Json.int k) ∧
        ((¬∃ k : Int, exactValue x = k ∧ k.natAbs < 2 ^ 63) → numberOrBlank raw = Json.float x) := by
  -- a number is sent as an integer or a float, never as a string
  have int_ne (k : Int) : Json.int k ≠ Json.str "" := by
    unfold Json.int
    split <;> nofun
  have float_ne (x : Float) : Json.float x ≠ Json.str "" := nofun
  constructor
  · cases held : fieldNumber raw with
    | none => simp [numberOrBlank_of_none held]
    | some x =>
      rw [numberOrBlank_of_some held]
      by_cases usable : (!x.isNaN && !x.isInf && x != 0.0) = true
      · obtain ⟨finite, nonzero⟩ := (usable_iff x).1 usable
        rw [if_pos usable]
        constructor
        · intro sent
          split at sent
          · exact absurd sent (int_ne _)
          · exact absurd sent (float_ne _)
        · intro blank
          rcases blank x rfl with top | zero
          · omega
          · exact absurd zero nonzero
      · have range : biasedOf x < 2048 := Nat.mod_lt _ (by norm_num)
        rw [if_neg usable]
        rw [usable_iff, not_and_or, not_lt, not_not] at usable
        simp only [true_iff, Option.some.injEq, forall_eq']
        rcases usable with top | zero
        · exact .inl (by omega)
        · exact .inr zero
  · intro x held finite nonzero
    rw [numberOrBlank_of_some held, if_pos ((usable_iff x).2 ⟨finite, nonzero⟩)]
    constructor
    · intro k exact small
      rw [if_pos ((smallWhole_iff x).2 ⟨k, exact, small⟩), truncate_eq_of_exactValue exact]
    · intro notSmall
      rw [if_neg (mt (smallWhole_iff x).1 notSmall)]

/-! ### Loading a sent value back -/

section Loading

variable {config : Json.Members} {key : String}

theorem settingText_of_truthy {v : Json} (held : config.lookup key = some v)
    (truthy : Json.isTruthy v = true) : settingText config key = (Json.scalarText? v).getD "" := by
  unfold settingText
  rw [held, Option.filter_some, if_pos truthy]
  rfl

theorem settingText_of_falsy {v : Json} (held : config.lookup key = some v)
    (falsy : Json.isTruthy v = false) : settingText config key = "" := by
  unfold settingText
  rw [held, Option.filter_some, if_neg (by rw [falsy]; exact Bool.false_ne_true)]
  rfl

/-- A string comes back as it is: an empty one is falsy and shown as the empty text. -/
theorem settingText_str {s : String} (held : config.lookup key = some (Json.str s)) :
    settingText config key = s := by
  cases empty : s.isEmpty
  · rw [settingText_of_truthy held (by simp [Json.isTruthy, Json.str, empty])]
    rfl
  · rw [settingText_of_falsy held (by simp [Json.isTruthy, Json.str, empty]),
      String.isEmpty_iff.1 empty]

/-- A switch comes back as it is. -/
theorem settingFlag_bool {b : Bool} (held : config.lookup key = some (Json.bool b)) :
    settingFlag config key = b := by
  simp [settingFlag, held, Json.isTruthy]

end Loading

/-- A whole number other than zero that is sent is truthy. -/
theorem isTruthy_int {k : Int} (nonzero : k ≠ 0) (small : k.natAbs < 2 ^ 63) :
    Json.isTruthy (Json.int k) = true := by
  have zero : (0 : Float) = 0.0 := rfl
  unfold Json.int
  split
  · next nonneg =>
    have pos : 0 < k.toNat.toUInt64.toNat := by
      simp
      omega
    simp only [Json.isTruthy, Number.toFloat, bne, zero, toFloat_beq_zero pos, Bool.not_false]
  · next neg =>
    have pos : 0 < (-k).toNat.toUInt64.toNat := by
      simp
      omega
    -- the negative of a float is zero exactly when the float is
    have flipped : (-(-k).toNat.toUInt64.toFloat == 0.0) = ((-k).toNat.toUInt64.toFloat == 0.0) := by
      rw [beq_zero_eq, beq_zero_eq, (neg_fields _).1, (neg_fields _).2]
    simp only [Json.isTruthy, Number.toFloat, bne, zero, flipped, toFloat_beq_zero pos,
      Bool.not_false]

theorem scalarText_int (k : Int) : Json.scalarText? (Json.int k) = some (toString k) := by
  unfold Json.int
  split
  · next nonneg => simp [Json.scalarText?, Json.numberText, Int.repr_eq_if, nonneg]
  · simp [Json.scalarText?, Json.numberText]

theorem isTruthy_float {x : Float} (usable : (!x.isNaN && !x.isInf && x != 0.0) = true) :
    Json.isTruthy (Json.float x) = true := by
  simp only [Bool.and_eq_true] at usable
  exact usable.2

theorem scalarText_float {x : Float} (usable : (!x.isNaN && !x.isInf && x != 0.0) = true) :
    Json.scalarText? (Json.float x) = some (floatText Layout.json x) := by
  simp only [Bool.and_eq_true, Bool.not_eq_true'] at usable
  simp only [Json.float, Json.scalarText?, Json.numberText, usable.1.1, usable.1.2, Bool.or_false,
    Bool.false_eq_true, if_false]

/-- A text with no blank that reads as a float holds that float. -/
theorem fieldNumber_of_read {t : String} {x : Float} (noBlank : ∀ c ∈ t.toList, isBlank c = false)
    (read : readFloat? t = some x) : fieldNumber t = some x := by
  have nonempty : t.isEmpty = false := by
    cases empty : t.isEmpty
    · rfl
    · rw [String.isEmpty_iff.1 empty] at read
      simp [readFloat?, readUnsigned, spanDigits, asciiLower] at read
  unfold fieldNumber
  dsimp only
  rw [trim_eq_self noBlank, nonempty, read]
  rfl

/-- A blank field sends an empty string. -/
theorem numberOrBlank_blank : numberOrBlank "" = Json.str "" := by
  rw [numberOrBlank_of_some (show fieldNumber "" = some 0.0 by simp [fieldNumber, Text.trim]),
    if_neg (by decide)]

/-- The text shown for a number that was sent holds that number again. -/
theorem fieldNumber_shown {x : Float} (usable : (!x.isNaN && !x.isInf && x != 0.0) = true)
    {config : Json.Members} {key : String}
    (held : config.lookup key = some
      (if (isWhole x && (truncate x).natAbs < Nat.pow 2 63) = true then Json.int (truncate x)
      else Json.float x)) :
    fieldNumber (settingText config key) = some x := by
  obtain ⟨finite, nonzero⟩ := (usable_iff x).1 usable
  have fields : biasedOf x ≠ 0 ∨ fractionOf x ≠ 0 := by
    rwa [Ne, exactValue_eq_zero_iff, not_and_or] at nonzero
  split at held
  · next small =>
    -- sent as the decimal text of its exact value
    obtain ⟨k, exact, bound⟩ := (smallWhole_iff x).1 small
    have sameK := truncate_eq_of_exactValue exact
    have nonzeroK : truncate x ≠ 0 := by
      rintro zeroK
      rw [sameK] at zeroK
      rw [exact, zeroK, Int.cast_zero] at nonzero
      exact nonzero rfl
    rw [settingText_of_truthy held (isTruthy_int nonzeroK (sameK ▸ bound)), scalarText_int,
      Option.getD_some]
    exact fieldNumber_of_read (intText_noBlank _)
      (readFloat_truncate finite fields (isWhole_of_exactValue exact))
  · -- sent as the shortest text of the float
    rw [settingText_of_truthy held (isTruthy_float usable), scalarText_float usable,
      Option.getD_some]
    exact fieldNumber_of_read (floatText_noBlank finite) (readFloat_floatText finite fields)

/-- A number field sent and loaded back from any configuration holding it is sent again as it
was. -/
theorem numberOrBlank_reload (raw : String) {config : Json.Members} {key : String}
    (held : config.lookup key = some (numberOrBlank raw)) :
    numberOrBlank (settingText config key) = numberOrBlank raw := by
  cases number : fieldNumber raw with
  | none =>
    rw [numberOrBlank_of_none number] at held ⊢
    rw [settingText_str held, numberOrBlank_blank]
  | some x =>
    rw [numberOrBlank_of_some number] at held ⊢
    by_cases usable : (!x.isNaN && !x.isInf && x != 0.0) = true
    · rw [if_pos usable] at held ⊢
      rw [numberOrBlank_of_some (fieldNumber_shown usable held), if_pos usable]
    · rw [if_neg usable] at held ⊢
      rw [settingText_str held, numberOrBlank_blank]

/-! ### The whole form -/

/-- A form saved, loaded back from the object it sent and saved again sends the same object: its
texts and switches come back as they were, and each number field comes back as a text holding
the number it sent. -/
theorem toPayload_ofConfig_toPayload (f : SettingsForm) :
    ∃ members, f.toPayload = .object members ∧
      (SettingsForm.ofConfig members).toPayload = f.toPayload := by
  refine ⟨_, rfl, ?_⟩
  simp only [SettingsForm.toPayload, SettingsForm.ofConfig]
  congr 1
  simp only [List.cons.injEq, Prod.mk.injEq, true_and, and_true]
  -- each key of the sent object holds the value sent under it (`simp` finds it), and each kind of
  -- field comes back by its own lemma
  refine ⟨?provider, ?model, ?maxChars, ?observations, ?sessions, ?enabled, ?host, ?port,
    ?interval, ?mdns⟩
  case provider | model | host =>
    rw [settingText_str]
    simp [Json.Members.lookup_ofList, Json.Members.lookup_cons]
  case maxChars | observations | sessions | port | interval =>
    exact numberOrBlank_reload _ (by simp [Json.Members.lookup_ofList, Json.Members.lookup_cons])
  case enabled | mdns =>
    rw [settingFlag_bool]
    simp [Json.Members.lookup_ofList, Json.Members.lookup_cons]

/-- Saving a settings form, loading it back from the object it sent and saving it again sends the
same object. Each number field sends an empty string when its text holds no finite nonzero
number, the exact integer when the number is a whole one below `2 ^ 63` in size, and the float
otherwise; and what it sent comes back from any configuration that holds it. -/
theorem saved_settings_reload_unchanged :
    (∀ f : SettingsForm, ∃ members, f.toPayload = .object members ∧
        (SettingsForm.ofConfig members).toPayload = f.toPayload) ∧
      (∀ raw : String,
        (numberOrBlank raw = Json.str "" ↔
            ∀ x, fieldNumber raw = some x → biasedOf x = 2047 ∨ exactValue x = 0) ∧
          ∀ x, fieldNumber raw = some x → biasedOf x < 2047 → exactValue x ≠ 0 →
            (∀ k : Int, exactValue x = k → k.natAbs < 2 ^ 63 → numberOrBlank raw = Json.int k) ∧
            ((¬∃ k : Int, exactValue x = k ∧ k.natAbs < 2 ^ 63) →
              numberOrBlank raw = Json.float x)) ∧
      ∀ (raw : String) (config : Json.Members) (key : String),
        config.lookup key = some (numberOrBlank raw) →
          numberOrBlank (settingText config key) = numberOrBlank raw :=
  ⟨toPayload_ofConfig_toPayload, numberOrBlank_classify,
    fun raw _ _ held => numberOrBlank_reload raw held⟩

end MemoryDashboard.Settings

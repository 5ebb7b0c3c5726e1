import MemoryDashboard.Json.Decode
import Mathlib.Data.String.Basic
import Mathlib.Data.List.Induction

/-! # Canonical values and decoding values held in memory

Every value that comes out of a reader has its object members sorted by key, each key once
(`Json.Canonical`), because reading an object builds its members with `Members.ofList`. On such
values reading back is the identity: `(Located.ofJson j).toJson = j` (`toJson_ofJson`), and
every value read back from memory is canonical (`canonical_toJson_ofJson`).

For decoding records held in memory: an object whose members each meet the rule of their own
name, or no rule, reads as the list of its fields (`recordWith_ofJson_object`), so a field read
from it is the member of that name (`lookup_fieldsOf`). Conversely, whatever record is read from
a value held in memory came from an object and holds only values held in memory
(`recordWith_ofJson_held`), so every free-form field read from it is canonical
(`read_value_held`).
-/

namespace MemoryDashboard.Json

/-- A value as readers give it out: the members of every object sorted by increasing key, so no
key twice. -/
inductive Canonical : Json → Prop
  | null : Canonical .null
  | bool (b : Bool) : Canonical (.bool b)
  | number (n : Number) : Canonical (.number n)
  | string (s : String) : Canonical (.string s)
  | array {items : List Json} (canonical : ∀ x ∈ items, Canonical x) : Canonical (.array items)
  | object {members : Members} (ascending : (members.map Prod.fst).Pairwise (· < ·))
      (canonical : ∀ p ∈ members, Canonical p.2) : Canonical (.object members)

/-- Induction over values through the items of arrays and the member values of objects. -/
@[elab_as_elim]
theorem induction {motive : Json → Prop} (null : motive .null) (bool : ∀ b, motive (.bool b))
    (number : ∀ n, motive (.number n)) (string : ∀ s, motive (.string s))
    (array : ∀ items, (∀ x ∈ items, motive x) → motive (.array items))
    (object : ∀ members : List (String × Json), (∀ p ∈ members, motive p.2) →
      motive (.object members)) :
    ∀ j, motive j
  | .null => null
  | .bool b => bool b
  | .number n => number n
  | .string s => string s
  | .array items => array items fun x _ => induction null bool number string array object x
  | .object members => object members fun p _ => induction null bool number string array object p.2
termination_by j => sizeOf j
decreasing_by
  · rename_i member
    have := List.sizeOf_lt_of_mem member
    simp_wf
    omega
  · rename_i member
    have inMembers := List.sizeOf_lt_of_mem member
    have ofPair : sizeOf p.2 < sizeOf p := by
      cases p
      simp only [Prod.mk.sizeOf_spec]
      omega
    simp_wf
    omega

/-- A key other than the first one looks past the first pair. -/
theorem lookup_cons_ne {β : Type} {key k : String} (value : β) (rest : List (String × β))
    (other : k ≠ key) : ((key, value) :: rest).lookup k = rest.lookup k := by
  simp [List.lookup_cons, beq_false_of_ne other]

namespace Members

/-- A member of an insertion is the inserted pair or one that was there. -/
theorem mem_insert {key : String} {value : Json} {members : Members} {p : String × Json}
    (member : p ∈ insert key value members) : p = (key, value) ∨ p ∈ members := by
  induction members with
  | nil => exact .inl (List.mem_singleton.mp member)
  | cons q rest ih =>
      rw [insert] at member
      split at member
      · simpa using member
      · split at member
        · rcases List.mem_cons.mp member with rfl | inRest
          · exact .inl rfl
          · exact .inr (List.mem_cons_of_mem _ inRest)
        · rcases List.mem_cons.mp member with rfl | inRest
          · exact .inr List.mem_cons_self
          · rcases ih inRest with same | inRest
            · exact .inl same
            · exact .inr (List.mem_cons_of_mem _ inRest)

/-- Inserting into members sorted by increasing key keeps them so. -/
theorem insert_ascending {members : Members}
    (ascending : (members.map Prod.fst).Pairwise (· < ·)) (key : String) (value : Json) :
    ((insert key value members).map Prod.fst).Pairwise (· < ·) := by
  induction members with
  | nil => simp [insert]
  | cons q rest ih =>
      obtain ⟨first, restAscending⟩ := List.pairwise_cons.mp ascending
      rw [insert]
      split
      · rename_i before
        refine List.pairwise_cons.mpr ⟨?_, ascending⟩
        intro k member
        rcases List.mem_cons.mp member with rfl | later
        · exact before
        · exact before.trans (first k later)
      · split
        · rename_i same
          subst same
          simpa using ascending
        · rename_i notBefore differs
          have after : q.1 < key := lt_of_le_of_ne (not_lt.mp notBefore) (Ne.symm differs)
          refine List.pairwise_cons.mpr ⟨?_, ih restAscending⟩
          intro k member
          obtain ⟨p, inserted, rfl⟩ := List.mem_map.mp member
          rcases mem_insert inserted with rfl | inRest
          · exact after
          · exact first p.1 (List.mem_map_of_mem inRest)

/-- A key above every present key goes last. -/
theorem insert_of_lt {key : String} {value : Json} {members : Members}
    (above : ∀ k ∈ members.map Prod.fst, k < key) :
    insert key value members = members ++ [(key, value)] := by
  induction members with
  | nil => rfl
  | cons q rest ih =>
      have below : q.1 < key := above q.1 List.mem_cons_self
      rw [insert, if_neg (lt_asymm below), if_neg (ne_of_gt below),
        ih fun k member => above k (List.mem_cons_of_mem _ member)]
      rfl

/-- The first value under a key in members that start with a given member. -/
theorem lookup_cons (key : String) (value : Json) (members : Members) (k : String) :
    ((key, value) :: members).lookup k = if k = key then some value else members.lookup k := by
  by_cases same : k = key
  · simp [same]
  · rw [lookup_cons_ne _ _ same, if_neg same]

/-- The first value under a key after an insertion is the inserted one. -/
theorem lookup_insert (key : String) (value : Json) (members : Members) (k : String) :
    (insert key value members).lookup k = if k = key then some value else members.lookup k := by
  induction members with
  | nil => simp [insert, lookup_cons]
  | cons q rest ih =>
      obtain ⟨qk, qv⟩ := q
      rw [insert]
      split
      · simp only [lookup_cons]
      · split
        · rename_i sameKey
          subst sameKey
          by_cases same : k = key <;> simp [lookup_cons, same]
        · rename_i differs
          rw [lookup_cons, ih, lookup_cons]
          by_cases atQ : k = qk
          · subst atQ
            simp [Ne.symm differs]
          · simp [atQ]

theorem ofList_append_singleton (pairs : List (String × Json)) (key : String) (value : Json) :
    ofList (pairs ++ [(key, value)]) = insert key value (ofList pairs) := by
  simp [ofList, List.foldl_append]

theorem mem_ofList {pairs : List (String × Json)} {p : String × Json}
    (member : p ∈ ofList pairs) : p ∈ pairs := by
  induction pairs using List.reverseRecOn with
  | nil => simp [ofList] at member
  | append_singleton pairs q ih =>
      obtain ⟨k, v⟩ := q
      rw [ofList_append_singleton] at member
      rcases mem_insert member with rfl | earlier
      · simp
      · exact List.mem_append_left _ (ih earlier)

theorem ofList_ascending (pairs : List (String × Json)) :
    ((ofList pairs).map Prod.fst).Pairwise (· < ·) := by
  induction pairs using List.reverseRecOn with
  | nil => simp [ofList]
  | append_singleton pairs q ih =>
      obtain ⟨k, v⟩ := q
      rw [ofList_append_singleton]
      exact insert_ascending ih k v

/-- Members already sorted by increasing key are their own sorted form. -/
theorem ofList_of_ascending {members : Members}
    (ascending : (members.map Prod.fst).Pairwise (· < ·)) : ofList members = members := by
  induction members using List.reverseRecOn with
  | nil => rfl
  | append_singleton members q ih =>
      obtain ⟨k, v⟩ := q
      rw [List.map_append, List.pairwise_append] at ascending
      obtain ⟨front, -, below⟩ := ascending
      rw [ofList_append_singleton, ih front]
      exact insert_of_lt fun key member => below key member k (by simp)

/-- A key's value in the sorted form is its last value in the pairs. -/
theorem lookup_ofList (pairs : List (String × Json)) (k : String) :
    (ofList pairs).lookup k = pairs.reverse.lookup k := by
  induction pairs using List.reverseRecOn with
  | nil => rfl
  | append_singleton pairs q ih =>
      obtain ⟨key, value⟩ := q
      rw [ofList_append_singleton, lookup_insert, ih]
      by_cases same : k = key <;> simp [lookup_cons, same]

end Members

/-! ### Values read back from memory -/

@[simp]
theorem itemsToJson_ofItems (items : List Json) :
    Located.itemsToJson (Located.ofItems items) = items.map fun x => (Located.ofJson x).toJson := by
  induction items with
  | nil => rfl
  | cons x rest ih => simp [Located.itemsToJson, Located.ofItems, ih]

@[simp]
theorem membersToJson_ofMembers (members : List (String × Json)) :
    Located.membersToJson (Located.ofMembers members) =
      members.map fun p => (p.1, (Located.ofJson p.2).toJson) := by
  induction members with
  | nil => rfl
  | cons p rest ih => simp [Located.membersToJson, Located.ofMembers, ih]

theorem toJson_ofJson_array (items : List Json) :
    (Located.ofJson (.array items)).toJson = .array (items.map fun x => (Located.ofJson x).toJson) := by
  simp [Located.ofJson, Located.toJson]

theorem toJson_ofJson_object (members : List (String × Json)) :
    (Located.ofJson (.object members)).toJson =
      .object (Members.ofList (members.map fun p => (p.1, (Located.ofJson p.2).toJson))) := by
  simp [Located.ofJson, Located.toJson]

/-- Reading a value back from memory gives a canonical value. -/
theorem canonical_toJson_ofJson (j : Json) : Canonical (Located.ofJson j).toJson := by
  induction j using induction with
  | null => exact .null
  | bool b => exact .bool b
  | number n => exact .number n
  | string s => exact .string s
  | array items ih =>
      rw [toJson_ofJson_array]
      refine .array fun y member => ?_
      obtain ⟨x, inItems, rfl⟩ := List.mem_map.mp member
      exact ih x inItems
  | object members ih =>
      rw [toJson_ofJson_object]
      refine .object (Members.ofList_ascending _) fun p member => ?_
      obtain ⟨q, inMembers, rfl⟩ := List.mem_map.mp (Members.mem_ofList member)
      exact ih q inMembers

/-- A canonical value reads back from memory as itself. -/
theorem toJson_ofJson {j : Json} (canonical : Canonical j) : (Located.ofJson j).toJson = j := by
  induction canonical with
  | null | bool | number | string => rfl
  | array _ ih =>
      rw [toJson_ofJson_array]
      congr 1
      exact (List.map_congr_left ih).trans (List.map_id _)
  | object ascending _ ih =>
      rw [toJson_ofJson_object]
      congr 1
      have same : ∀ p ∈ _, (p.1, (Located.ofJson p.2).toJson) = p := fun p member =>
        Prod.ext rfl (ih p member)
      rw [List.map_congr_left same, List.map_id']
      exact Members.ofList_of_ascending ascending

/-! ### Decoding values held in memory -/

namespace Decode

theorem memberValue_ofJson {α : Type} (key : String) (d : Decoder α) (j : Json) :
    memberValue key d (Located.ofJson j) = within (.key key) (d (Located.ofJson j)) := by
  cases j <;> rfl

@[simp]
theorem within_ok {α : Type} (step : PathStep) (a : α) : within step (.ok a) = .ok a := rfl

/-- A decoding step that succeeds hands its value on. -/
@[simp]
theorem ok_bind {α β : Type} (a : α) (f : α → Decoded β) : (Except.ok a >>= f) = f a := rfl

/-- Two steps that may fail succeed exactly when the first does and the second does on its
value. -/
theorem bind_eq_ok {ε α β : Type} {x : Except ε α} {f : α → Except ε β} {b : β} :
    (x >>= f) = .ok b ↔ ∃ a, x = .ok a ∧ f a = .ok b := by
  cases x with
  | error e => exact ⟨nofun, fun ⟨_, failed, _⟩ => nomatch failed⟩
  | ok a => exact ⟨fun bound => ⟨a, rfl, bound⟩, fun ⟨_, found, bound⟩ => by cases found; exact bound⟩

theorem completeItems_ofItems (start : Nat) (items : List Json)
    (complete_items : ∀ x ∈ items, complete (Located.ofJson x) = .ok ()) :
    completeItems start (Located.ofItems items) = .ok () := by
  induction items generalizing start with
  | nil => rfl
  | cons x rest ih =>
      have first := complete_items x List.mem_cons_self
      have later := ih (start + 1) fun y member => complete_items y (List.mem_cons_of_mem _ member)
      simp only [Located.ofItems, completeItems, first, within_ok, later]
      rfl

theorem completeMembers_ofMembers (members : List (String × Json))
    (complete_members : ∀ p ∈ members, complete (Located.ofJson p.2) = .ok ()) :
    completeMembers (Located.ofMembers members) = .ok () := by
  induction members with
  | nil => rfl
  | cons p rest ih =>
      obtain ⟨k, v⟩ := p
      have first := complete_members (k, v) List.mem_cons_self
      have later := ih fun q member => complete_members q (List.mem_cons_of_mem _ member)
      rw [Located.ofMembers]
      cases v <;> simp only [Located.ofJson] at first ⊢ <;> simp [completeMembers, first, later]

/-- A value held in memory is read in full without fault. -/
theorem complete_ofJson (j : Json) : complete (Located.ofJson j) = .ok () := by
  induction j using induction with
  | null | bool | number | string => rfl
  | array items ih =>
      simp only [Located.ofJson, complete, completeItems_ofItems 0 items ih]
      rfl
  | object members ih =>
      simp only [Located.ofJson, complete, completeMembers_ofMembers members ih]
      rfl

theorem value_ofJson (j : Json) : value (Located.ofJson j) = .ok (Located.ofJson j).toJson := by
  simp only [value, complete_ofJson]
  rfl

/-- The fields a record reads from members held in memory: the members whose name has a rule,
under their names. -/
def fieldsOf (rules : List FieldRule) (members : List (String × Json)) : Fields :=
  (members.filter fun p => (ruleFor? rules p.1).isSome).map fun p => (p.1, Located.ofJson p.2)

section Record

variable {rules : List FieldRule} {other : Decoder Unit}

/-- What a record asks of members held in memory: a member whose name has a rule has the rule of
its own name and passes its check, and every other member passes `other`. -/
structure MembersFit (rules : List FieldRule) (other : Decoder Unit)
    (members : List (String × Json)) : Prop where
  named : ∀ p ∈ members, ∀ r, ruleFor? rules p.1 = some r → r.name = p.1
  passes : ∀ p ∈ members, ∀ r, ruleFor? rules p.1 = some r → r.check (Located.ofJson p.2) = .ok ()
  skipped : ∀ p ∈ members, ruleFor? rules p.1 = none → other (Located.ofJson p.2) = .ok ()

theorem MembersFit.tail {p : String × Json} {members : List (String × Json)}
    (fit : MembersFit rules other (p :: members)) : MembersFit rules other members where
  named q member := fit.named q (List.mem_cons_of_mem _ member)
  passes q member := fit.passes q (List.mem_cons_of_mem _ member)
  skipped q member := fit.skipped q (List.mem_cons_of_mem _ member)

/-- Members with distinct names that fit the rules are read in order, none of them twice. -/
theorem recordMembers_ofMembers (seen : Fields) (members : List (String × Json))
    (distinct : (members.map Prod.fst).Nodup) (fit : MembersFit rules other members)
    (unseen : ∀ p ∈ members, seen.lookup p.1 = none) :
    recordMembers rules other seen (Located.ofMembers members) =
      .ok (seen.reverse ++ fieldsOf rules members) := by
  induction members generalizing seen with
  | nil => simp [recordMembers, Located.ofMembers, fieldsOf]
  | cons p rest ih =>
      obtain ⟨k, v⟩ := p
      obtain ⟨fresh, restDistinct⟩ := List.nodup_cons.mp distinct
      simp only [Located.ofMembers, recordMembers]
      cases known : ruleFor? rules k with
      | none =>
          have skip : memberValue k other (Located.ofJson v) = .ok () := by
            rw [memberValue_ofJson, fit.skipped (k, v) List.mem_cons_self known]
            rfl
          simp only [skip, ih seen restDistinct fit.tail
            fun q member => unseen q (List.mem_cons_of_mem _ member)]
          simp [fieldsOf, known]
      | some rule =>
          have name := fit.named (k, v) List.mem_cons_self rule known
          have passed : memberValue k rule.check (Located.ofJson v) = .ok () := by
            rw [memberValue_ofJson, fit.passes (k, v) List.mem_cons_self rule known]
            rfl
          have notSeen : seen.lookup rule.name = none := by
            rw [name]
            exact unseen (k, v) List.mem_cons_self
          have restUnseen : ∀ q ∈ rest, ((rule.name, Located.ofJson v) :: seen).lookup q.1 = none := by
            intro q member
            have other : q.1 ≠ k := fun same => fresh (List.mem_map.mpr ⟨q, member, same⟩)
            rw [name, lookup_cons_ne _ _ other]
            exact unseen q (List.mem_cons_of_mem _ member)
          simp only [notSeen, Option.isSome_none, Bool.false_eq_true, ↓reduceIte, passed,
            ih _ restDistinct fit.tail restUnseen]
          simp [fieldsOf, known, name]

/-- A record held in memory whose members fit its rules, none of them required, reads as its
fields. -/
theorem recordWith_ofJson_object (typeName : String) (arrayForm : Bool)
    (members : List (String × Json)) (distinct : (members.map Prod.fst).Nodup)
    (fit : MembersFit rules other members) (optional : ∀ r ∈ rules, r.absent ≠ .required) :
    recordWith typeName rules arrayForm other (Located.ofJson (.object members)) =
      .ok (fieldsOf rules members) := by
  have none_missing : rules.find? (fun r => r.absent = .required &&
      ((fieldsOf rules members).lookup r.name).isNone) = none :=
    List.find?_eq_none.mpr fun r member => by simp [optional r member]
  simp only [Located.ofJson, recordWith,
    recordMembers_ofMembers [] members distinct fit (fun _ _ => rfl), ok_bind]
  simp [tailOf, none_missing]

/-- A field read from members held in memory is the member of its name. -/
theorem lookup_fieldsOf (members : List (String × Json)) {name : String}
    (hasRule : (ruleFor? rules name).isSome) :
    (fieldsOf rules members).lookup name = (members.lookup name).map Located.ofJson := by
  induction members with
  | nil => rfl
  | cons p rest ih =>
      obtain ⟨k, v⟩ := p
      by_cases same : name = k
      · subst same
        simp [fieldsOf, hasRule]
      · simp only [fieldsOf] at ih
        -- kept or dropped, the member is not the one looked up
        by_cases kept : (ruleFor? rules k).isSome <;>
          simp [fieldsOf, kept, lookup_cons_ne _ _ same, ih]

/-- Where a key has a value, that key and value are a member. -/
theorem mem_of_lookup_eq_some {β : Type} {l : List (String × β)} {k : String} {b : β}
    (found : l.lookup k = some b) : (k, b) ∈ l := by
  induction l with
  | nil => cases found
  | cons p rest ih =>
      obtain ⟨key, value⟩ := p
      by_cases same : k = key
      · subst same
        simp only [List.lookup_cons_self, Option.some.injEq] at found
        exact found ▸ List.mem_cons_self
      · rw [lookup_cons_ne _ _ same] at found
        exact List.mem_cons_of_mem _ (ih found)

/-- Every node of the fields is a value held in memory. -/
def Fields.Held (fs : Fields) : Prop := ∀ p ∈ fs, ∃ v, p.2 = Located.ofJson v

/-- The fields read from members held in memory are values held in memory. -/
theorem recordMembers_held (members : List (String × Json)) {seen fields : Fields}
    (held : seen.Held) (read : recordMembers rules other seen (Located.ofMembers members) = .ok fields) :
    fields.Held := by
  induction members generalizing seen with
  | nil =>
      simp only [Located.ofMembers, recordMembers, Except.ok.injEq] at read
      subst read
      exact fun p member => held p (List.mem_reverse.mp member)
  | cons q rest ih =>
      obtain ⟨k, v⟩ := q
      simp only [Located.ofMembers, recordMembers] at read
      cases known : ruleFor? rules k with
      | none =>
          rw [known] at read
          obtain ⟨_, -, later⟩ := bind_eq_ok.mp read
          exact ih held later
      | some rule =>
          simp only [known] at read
          split at read
          · cases read
          · obtain ⟨_, -, later⟩ := bind_eq_ok.mp read
            -- the field just read joins those already seen
            refine ih (fun p member => ?_) later
            rcases List.mem_cons.mp member with rfl | earlier
            · exact ⟨v, rfl⟩
            · exact held p earlier

/-- A record that may not be given as an array, read from a value held in memory, comes from an
object, and its fields are values held in memory. -/
theorem recordWith_ofJson_held (typeName : String) {j : Json} {fields : Fields}
    (read : recordWith typeName rules false other (Located.ofJson j) = .ok fields) :
    ∃ members, j = .object members ∧ fields.Held := by
  cases j with
  | object members =>
      simp only [Located.ofJson, recordWith] at read
      obtain ⟨found, readMembers, rest⟩ := bind_eq_ok.mp read
      have held := recordMembers_held members (fun _ member => absurd member List.not_mem_nil) readMembers
      simp only [tailOf, ok_bind] at rest
      split at rest
      · cases rest
      · cases rest
        exact ⟨members, rfl, held⟩
  | _ => cases read

/-- A free-form field read from values held in memory is canonical. -/
theorem read_value_held {fs : Fields} (held : fs.Held) {name : String} {m : Json}
    (read : fs.read name value .null = .ok m) : Canonical m := by
  rw [Fields.read] at read
  split at read
  · rename_i node found
    obtain ⟨v, rfl⟩ := held _ (mem_of_lookup_eq_some found)
    rw [value_ofJson, within_ok, Except.ok.injEq] at read
    exact read ▸ canonical_toJson_ofJson v
  · cases read
    exact .null

end Record

end Decode

end MemoryDashboard.Json

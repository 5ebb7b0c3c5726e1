import MemoryDashboard.Sync.Pairing
import MemoryDashboard.Proofs.Text.Base64
import MemoryDashboard.Proofs.Json.ReadBack

/-! # The pairing command carries the payload

The pairing command pipes a base64 text through `base64 -d` into the pairing tool. The text is
that of the payload's compact JSON, with the payload's addresses made an array first. Two things
make the command safe to paste into a shell on the other device, whatever the payload holds:
the text holds only characters of the base64 alphabet and its padding, so no quote can end the
`echo` early; and decoding it and reading the JSON gives back an object with the payload's
members, its addresses those of the payload when they were an array and an empty array
otherwise (`pairing_command_carries_payload`). Reading the JSON back needs only that the payload
is readable at all: keys in order, nesting within the reader's limit, numbers it reads back.
-/

namespace MemoryDashboard.Sync

open Json

/-- The addresses a pairing command sends: the payload's when they are an array, and an empty
array when the payload has none or something else under that key. -/
def sentAddresses (payload : Members) : Json :=
  match payload.lookup "addresses" with
  | some (.array xs) => .array xs
  | _ => .array []

theorem sentAddresses_of_array {payload : Members} {xs : List Json}
    (held : payload.lookup "addresses" = some (.array xs)) : sentAddresses payload = .array xs := by
  simp [sentAddresses, held]

theorem sentAddresses_of_not_array {payload : Members}
    (notArray : ∀ xs, payload.lookup "addresses" ≠ some (.array xs)) :
    sentAddresses payload = .array [] := by
  unfold sentAddresses
  split
  · next xs held => exact absurd held (notArray xs)
  · rfl

/-- The text the command's `echo` prints decodes to the payload's compact JSON, which reads back
as the payload. -/
theorem read_unbase64_compact {sent : Members} (readable : Readable 127 (.object sent)) :
    (Text.unbase64 (Text.base64 (compact (.object sent)))).map read = some (.ok (.object sent)) := by
  rw [Text.unbase64_base64, Option.map_some, read_compact readable]

/-- An empty array of addresses added to a readable payload leaves it readable. -/
theorem readable_insert_addresses {payload : Members} (readable : Readable 127 (.object payload)) :
    Readable 127 (.object (Members.insert "addresses" (.array []) payload)) := by
  cases readable with
  | object ascending each =>
      refine .object (Members.insert_ascending ascending _ _) fun p mem => ?_
      rcases Members.mem_insert mem with rfl | held
      · exact .array (by simp)
      · exact each p held

/-- The pairing command is an `echo` of base64 text, made only of base64 characters, that
decodes to the compact JSON of an object with the payload's members and its addresses made an
array. -/
theorem pairing_command_carries_payload (payload : Members)
    (readable : Readable 127 (.object payload)) :
    ∃ encoded sent,
      pairingCommand payload =
          "echo '" ++ encoded ++ "' | base64 -d | codemem sync pair --accept-file -" ∧
        (∀ ch ∈ encoded.toList, Text.isBase64Char ch = true) ∧ '\'' ∉ encoded.toList ∧
        (Text.unbase64 encoded).map read = some (.ok (.object sent)) ∧
        (sent.map Prod.fst).Pairwise (· < ·) ∧
        sent.lookup "addresses" = some (sentAddresses payload) ∧
        ∀ key, key ≠ "addresses" → sent.lookup key = payload.lookup key := by
  unfold pairingCommand
  split
  · next xs held =>
      have decoded := read_unbase64_compact readable
      cases readable with
      | object ascending _ =>
          exact ⟨_, payload, rfl, Text.isBase64Char_of_mem_base64 _, Text.quote_not_mem_base64 _,
            decoded, ascending,
            by rw [held, sentAddresses_of_array held], fun _ _ => rfl⟩
  · next notArray =>
      have inserted := readable_insert_addresses readable
      have decoded := read_unbase64_compact inserted
      cases inserted with
      | object ascending _ =>
          refine ⟨_, _, rfl, Text.isBase64Char_of_mem_base64 _, Text.quote_not_mem_base64 _, decoded,
            ascending, ?_, fun key other => ?_⟩
          · rw [Members.lookup_insert, if_pos rfl, sentAddresses_of_not_array notArray]
          · rw [Members.lookup_insert, if_neg other]

/-- A payload without addresses is sent with an empty array of them. -/
theorem pairing_sends_empty_addresses :
    Readable 127 (.object [("device_id", .string "d1"), ("fingerprint", .string "f1")]) ∧
      ∃ encoded sent,
        pairingCommand [("device_id", .string "d1"), ("fingerprint", .string "f1")] =
            "echo '" ++ encoded ++ "' | base64 -d | codemem sync pair --accept-file -" ∧
          (∀ ch ∈ encoded.toList, Text.isBase64Char ch = true) ∧ '\'' ∉ encoded.toList ∧
          (Text.unbase64 encoded).map read = some (.ok (.object sent)) ∧
          (sent.map Prod.fst).Pairwise (· < ·) ∧
          sent.lookup "addresses" =
            some (sentAddresses [("device_id", .string "d1"), ("fingerprint", .string "f1")]) ∧
          ∀ key, key ≠ "addresses" →
            sent.lookup key = [("device_id", .string "d1"), ("fingerprint", .string "f1")].lookup key :=
  have readable : Readable 127 (.object [("device_id", .string "d1"), ("fingerprint", .string "f1")]) :=
    .object (by decide) fun p mem => by
      simp only [List.mem_cons, List.not_mem_nil, or_false] at mem
      rcases mem with rfl | rfl <;> exact .string _
  ⟨readable, pairing_command_carries_payload _ readable⟩

end MemoryDashboard.Sync

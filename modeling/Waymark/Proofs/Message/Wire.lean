import Mathlib.Logic.Function.Basic
import Waymark.Message.Reader
import Waymark.Proofs.Json.RoundTrip

/-!
# Messages on the wire

A message is written as a value without fractions (`exact_toJson`), which is
read from its text as it is, and the value is read as the message again
(`ofJson?_toJson`), kind by kind. The type that a message is written with and
the name by which it is reported are two tables; they agree (`tag_eq_kind`).
-/

namespace Waymark

namespace Message

theorem tag_eq_kind (m : Message) : m.tag = m.kind := by cases m <;> rfl

/-! ## Fields -/

theorem code?_toNat (code : UInt16) : code? (.int code.toNat) = some code := by
  have hnat : (Json.int code.toNat).nat? = some code.toNat := by simp [Json.nat?]
  rw [code?, hnat]
  simp [code.toNat_lt]

theorem headers?_headersJson (hs : Headers) : headers? (headersJson hs) = some hs := by
  simp only [headers?, headersJson, Json.arr?, Option.bind_eq_bind, Option.bind_some]
  induction hs with
  | nil => rfl
  | cons h hs ih =>
      rw [List.map_cons, List.mapM_cons, ih]
      rfl

/-! ## Values -/

theorem ofJson?_toJson (m : Message) : ofJson? m.toJson = some m := by
  cases m with
  | responseStart status headers =>
      have hparts : ofJson? (toJson (.responseStart status headers)) =
          ofParts? "response.start" [.int status.toNat, headersJson headers] := rfl
      rw [hparts, ofParts?, code?_toNat, headers?_headersJson]
      rfl
  | socketClose code =>
      have hparts : ofJson? (toJson (.socketClose code)) =
          ofParts? "socket.close" [.int code.toNat] := rfl
      rw [hparts, ofParts?, code?_toNat]
      rfl
  | socketDisconnect code =>
      have hparts : ofJson? (toJson (.socketDisconnect code)) =
          ofParts? "socket.disconnect" [.int code.toNat] := rfl
      rw [hparts, ofParts?, code?_toNat]
      rfl
  | _ => rfl

theorem exact_code (depth : Nat) (code : UInt16) : Json.Exact depth (.int code.toNat) := by
  have hlt : code.toNat < 65536 := code.toNat_lt
  refine .int ?_ ?_
  · simp only [Text.int64Min]
    omega
  · simp only [Text.word64Max]
    omega

theorem exact_headersJson (depth : Nat) (hs : Headers) :
    Json.Exact (depth + 2) (headersJson hs) := by
  refine .arr fun j hj => ?_
  obtain ⟨h, _, rfl⟩ := List.mem_map.mp hj
  exact .arr (by simp [Json.Exact.str])

theorem exact_toJson (m : Message) : Json.Exact 127 m.toJson := by
  refine .obj fun member hmember => ?_
  rcases List.mem_cons.mp hmember with rfl | hmember
  · exact .str _
  cases m with
  | lifecycleStartFailed detail | responseBody detail | socketReceive detail | socketSend detail =>
      obtain rfl := List.mem_singleton.mp hmember
      exact .str _
  | socketClose code | socketDisconnect code =>
      obtain rfl := List.mem_singleton.mp hmember
      exact exact_code _ code
  | responseStart status headers =>
      rcases List.mem_cons.mp hmember with rfl | hmember
      · exact exact_code _ status
      · obtain rfl := List.mem_singleton.mp hmember
        exact exact_headersJson _ headers
  | _ => cases hmember

/-- The text of a message reads back as the message, whatever it carries. The text writes an
object whose one member named `type` is the name of the message, and no two messages have one
text. -/
theorem text_faithful :
    (∀ m : Message, read? m.text = some m ∧
      ∃ members, Json.read? m.text = some (.obj members) ∧
        members.filter (fun member => member.1 == "type") = [("type", .str m.kind)]) ∧
    Function.Injective text := by
  have hvalue (m : Message) : Json.read? m.text = some m.toJson := Json.read?_text m.exact_toJson
  have hread (m : Message) : read? m.text = some m := by
    rw [read?, hvalue, Option.bind_some, ofJson?_toJson]
  refine ⟨fun m => ⟨hread m, _, hvalue m, ?_⟩, fun m n heq => ?_⟩
  · rw [← tag_eq_kind]
    cases m <;> rfl
  · exact Option.some.inj ((hread m).symm.trans (heq ▸ hread n))

end Message

end Waymark

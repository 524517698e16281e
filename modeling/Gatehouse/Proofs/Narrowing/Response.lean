import Gatehouse.Narrowing
import Gatehouse.Proofs.Json.Document

/-!
# Narrowed responses

What a response holds after its rows and its cursor have been set. What it holds is said of
responses that are objects, since nothing can be set in any other document; setting the same once
more changes nothing in any response.

## Theorems

* `Narrowing.rowsOf_finish`, `Narrowing.tokenOf_finish`: The rows and the cursor.
* `Narrowing.get?_finish_other`: The other members stay as they are.
* `Narrowing.finish_finish`: Rows and cursor are set once and for all.
-/

namespace Gatehouse

namespace Narrowing

variable {members : List (String × Json)} {field : String} {rows : List Json}
  {token : Option String}

theorem get?_finish_field (hf : field ≠ tokenField) :
    (finish (.object members) field rows token).get? field = some (.array rows) := by
  cases token with
  | none =>
      simp only [finish, Json.set, Json.erase, Json.get?, Json.lookup_eraseMember, if_neg hf,
        Json.lookup_insertMember, if_true]
  | some text =>
      simp only [finish, Json.set, Json.get?, Json.lookup_insertMember, if_neg hf, if_true]

theorem get?_finish_token :
    (finish (.object members) field rows token).get? tokenField = token.map .string := by
  cases token with
  | none =>
      simp only [finish, Json.set, Json.erase, Json.get?, Json.lookup_eraseMember, if_true,
        Option.map_none]
  | some text =>
      simp only [finish, Json.set, Json.get?, Json.lookup_insertMember, if_true,
        Option.map_some]

theorem get?_finish_other {name : String} (hf : name ≠ field) (ht : name ≠ tokenField) :
    (finish (.object members) field rows token).get? name =
      (Json.object members).get? name := by
  cases token with
  | none =>
      simp only [finish, Json.set, Json.erase, Json.get?, Json.lookup_eraseMember, if_neg ht,
        Json.lookup_insertMember, if_neg hf]
  | some text =>
      simp only [finish, Json.set, Json.get?, Json.lookup_insertMember, if_neg ht, if_neg hf]

theorem rowsOf_finish (hf : field ≠ tokenField) :
    rowsOf field (finish (.object members) field rows token) = rows := by
  rw [rowsOf, get?_finish_field hf]
  rfl

theorem tokenOf_finish :
    tokenOf (finish (.object members) field rows token) = token.filter (!·.isEmpty) := by
  rw [tokenOf, get?_finish_token]
  cases token <;> rfl

/-- Rows and cursor that are set once more are there already. -/
theorem finish_finish (hf : field ≠ tokenField) (response : Json) :
    finish (finish response field rows token) field rows token =
      finish response field rows token := by
  have hplaced (members : List (String × Json)) :
      Json.Placed field (.array rows) (Json.insertMember field (.array rows) members) :=
    .insertMember field _ members
  cases token with
  | none =>
      cases response with
      | object members =>
          -- The member of the cursor is removed, and the rows stay where they are.
          change Json.object _ = Json.object _
          rw [((hplaced members).eraseMember_other hf).insertMember_eq,
            Json.eraseMember_eraseMember]
      | _ => rfl
  | some text =>
      cases response with
      | object members =>
          change Json.object _ = Json.object _
          rw [((hplaced members).insertMember_other hf _).insertMember_eq,
            (Json.Placed.insertMember _ _ _).insertMember_eq]
      | _ => rfl

/-- Nothing is set in a response that is no object. -/
theorem finish_eq_self {response : Json} (h : ∀ members, response ≠ .object members) :
    finish response field rows token = response := by
  cases response with
  | object members => exact absurd rfl (h members)
  | _ => cases token <;> rfl

/-- Such a response has no cursor. -/
theorem tokenOf_eq_none {response : Json} (h : ∀ members, response ≠ .object members) :
    tokenOf response = none := by
  cases response with
  | object members => exact absurd rfl (h members)
  | _ => rfl

end Narrowing

end Gatehouse

import Gatehouse.Proofs.Json.Lexemes

/-!
# Documents read back

Reading what was written gives the tree of the document. The lexemes of a document lead
from the place where a value has to come to the place where the innermost open list or
object has taken it in, whatever is open around it; a list or an object that is under way
keeps its earlier items in reverse.

## Theorems

* `Builder.run_lexemes`: The lexemes of a document hand its tree to the innermost frame.
* `Tree.ofBytes?_bytes`: The tree of a written document.
-/

namespace Gatehouse

namespace Builder

theorem run_cons (builder : Builder) (lexeme : Lexeme) (rest : List Lexeme) :
    run builder (lexeme :: rest) = (step builder lexeme).bind (run · rest) := rfl

/-- A list that has just been opened goes on like any other unless it ends. -/
theorem run_firstItem (v : Json) (frames : List Frame) (rest : List Lexeme) :
    run (firstItem frames) (v.lexemes ++ rest) =
      run (value (.array [] :: frames)) (v.lexemes ++ rest) := by
  cases v <;> rfl

theorem run_give_comma {tree : Tree} {items : List Tree} {frames : List Frame}
    (rest : List Lexeme) :
    run (give tree (.array items :: frames)) (.comma :: rest) =
      run (value (.array (tree :: items) :: frames)) rest := rfl

theorem run_give_closeArray {tree : Tree} {items : List Tree} {frames : List Frame}
    (rest : List Lexeme) :
    run (give tree (.array items :: frames)) (.closeArray :: rest) =
      run (give (.array (tree :: items).reverse) frames) rest := rfl

theorem run_name {frames : List Frame} {members : List (Option String × Tree)}
    {name : Option String} (rest : List Lexeme) :
    run (nextName frames members) (.string name :: .colon :: rest) =
      run (value (.object members name :: frames)) rest := rfl

theorem run_give_nextName {tree : Tree} {members : List (Option String × Tree)}
    {name : Option String} {frames : List Frame} (rest : List Lexeme) :
    run (give tree (.object members name :: frames)) (.comma :: rest) =
      run (nextName frames ((name, tree) :: members)) rest := rfl

theorem run_give_closeObject {tree : Tree} {members : List (Option String × Tree)}
    {name : Option String} {frames : List Frame} (rest : List Lexeme) :
    run (give tree (.object members name :: frames)) (.closeObject :: rest) =
      run (give (.object ((name, tree) :: members).reverse) frames) rest := rfl

mutual

/-- The lexemes of a document hand its tree to the innermost frame. -/
theorem run_lexemes (v : Json) (frames : List Frame) (rest : List Lexeme) :
    run (value frames) (v.lexemes ++ rest) = run (give v.tree frames) rest := by
  cases v with
  | null => rfl
  | bool b => rfl
  | number n => rfl
  | string s => rfl
  | array items =>
      cases items with
      | nil => rfl
      | cons first more =>
          have hopen : run (value frames) ((Json.array (first :: more)).lexemes ++ rest) =
              run (firstItem frames) (Json.itemLexemes (first :: more) ++ rest) := rfl
          -- Only the mark that ends the list is read differently before its first item.
          have hfirst : run (firstItem frames) (Json.itemLexemes (first :: more) ++ rest) =
              run (value (.array [] :: frames)) (Json.itemLexemes (first :: more) ++ rest) := by
            cases more with
            | nil =>
                rw [Json.itemLexemes, List.append_assoc]
                exact run_firstItem first frames _
            | cons next more =>
                rw [Json.itemLexemes_cons, List.append_assoc]
                exact run_firstItem first frames _
          rw [hopen, hfirst, run_itemLexemes first more [] frames rest]
          rfl
  | object members =>
      cases members with
      | nil => rfl
      | cons first more =>
          obtain ⟨name, value⟩ := first
          have hopen : run (.value frames) ((Json.object ((name, value) :: more)).lexemes ++ rest) =
              run (nextName frames []) (Json.memberLexemes ((name, value) :: more) ++ rest) := by
            cases more <;> rfl
          rw [hopen, run_memberLexemes name value more [] frames rest]
          rfl
termination_by sizeOf v

/-- The items of a list join those that it holds already. -/
theorem run_itemLexemes (v : Json) (more : List Json) (items : List Tree)
    (frames : List Frame) (rest : List Lexeme) :
    run (value (.array items :: frames)) (Json.itemLexemes (v :: more) ++ rest) =
      run (give (.array (items.reverse ++ Json.trees (v :: more))) frames) rest := by
  cases more with
  | nil =>
      rw [Json.itemLexemes, List.append_assoc, run_lexemes v, List.singleton_append,
        run_give_closeArray, List.reverse_cons, Json.trees, Json.trees]
  | cons next more =>
      rw [Json.itemLexemes_cons, List.append_assoc, run_lexemes v, List.cons_append,
        run_give_comma, run_itemLexemes next more, List.reverse_cons, List.append_assoc,
        List.singleton_append, ← Json.trees]
termination_by sizeOf (v :: more)

/-- The members of an object join those that it holds already. -/
theorem run_memberLexemes (name : String) (v : Json) (more : List (String × Json))
    (members : List (Option String × Tree)) (frames : List Frame) (rest : List Lexeme) :
    run (nextName frames members) (Json.memberLexemes ((name, v) :: more) ++ rest) =
      run (give (.object (members.reverse ++ Json.namedTrees ((name, v) :: more))) frames)
        rest := by
  cases more with
  | nil =>
      rw [Json.memberLexemes, List.cons_append, List.cons_append, run_name, List.append_assoc,
        run_lexemes v, List.singleton_append, run_give_closeObject, List.reverse_cons,
        Json.namedTrees, Json.namedTrees]
  | cons next more =>
      obtain ⟨other, w⟩ := next
      rw [Json.memberLexemes_cons, List.cons_append, List.cons_append, run_name,
        List.append_assoc, run_lexemes v, List.cons_append, run_give_nextName,
        run_memberLexemes other w more, List.reverse_cons, List.append_assoc,
        List.singleton_append, ← Json.namedTrees]
termination_by sizeOf ((name, v) :: more)

end

end Builder

/-- The tree of a written document. -/
theorem Tree.ofBytes?_bytes (v : Json) (h : v.HasWords) : Tree.ofBytes? v.bytes = some v.tree := by
  have hrun := Builder.run_lexemes v [] []
  rw [List.append_nil] at hrun
  rw [Tree.ofBytes?, Lexeme.ofBytes?_bytes v h, Option.bind_eq_bind, Option.bind_some, hrun]
  rfl

end Gatehouse

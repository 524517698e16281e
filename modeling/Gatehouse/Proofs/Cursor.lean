import Gatehouse.Cursor
import Gatehouse.Proofs.Json.RoundTrip
import Gatehouse.Proofs.Text.Base64

/-!
# Cursors read back

Every cursor that the gateway or a tracking server hands out is read back as it was, all
offsets and all arguments of a search included. A written cursor is never the empty text,
which would stand for no cursor at all.

## Theorems

* `Cursor.read_write`: A written document is read back from its opaque text.
* `Cursor.isEmpty_of_read`, `Cursor.eq_badParameter_of_read`: What is read, and what is not.
* `OffsetCursor.decode_encode`, `ModelsCursor.decode_encode`: Cursors of both kinds.
* `OffsetCursor.start_encode`: A written offset cursor starts at its offset.
* `Cursor.read_back`: All of these at once, and that no two cursors share a text.
-/

namespace Gatehouse

open Text

namespace Cursor

theorem read_write {α : Type} {decode : Tree → Option α} {v : Json} (hv : v.HasWords) {a : α}
    (hd : decode v.tree = some a) : read decode (write v) = .ok a := by
  rw [read, write, trim_base64Encode, String.toList_ofList, base64Decode?_base64Encode]
  simp only [Tree.ofBytes?_bytes v hv, Option.bind_some, hd]

theorem isEmpty_write (members : List (String × Json)) :
    (write (.object members)).isEmpty = false := by
  -- A document in braces has bytes, and these are never encoded as nothing.
  have hne : base64Encode (Json.object members).bytes ≠ [] := by
    refine base64Encode_ne_nil ?_
    rw [Json.bytes, Json.text, utf8_ofList, Json.chars, charBytes_cons_ascii (by decide)]
    exact List.cons_ne_nil _ _
  rw [← Bool.not_eq_true, String.isEmpty_iff]
  intro h
  exact hne (by rw [← String.toList_ofList (l := base64Encode _)]; exact congrArg _ h)

/-- The empty text is read as nothing. -/
theorem isEmpty_of_read {α : Type} {decode : Tree → Option α} {token : String} {value : α}
    (h : read decode token = .ok value) : token.isEmpty = false := by
  rw [← Bool.not_eq_true, String.isEmpty_iff]
  rintro rfl
  exact nomatch h

/-- What is not read is a bad parameter. -/
theorem eq_badParameter_of_read {α : Type} {decode : Tree → Option α} {token : String} {e : Error}
    (h : read decode token = .error e) : ∃ cause, e = .badParameter cause := by
  unfold read at h
  split at h
  · exact ⟨_, (Except.error.inj h).symm⟩
  · split at h
    · exact nomatch h
    · exact ⟨_, (Except.error.inj h).symm⟩

end Cursor

theorem toUInt64?_ofUInt64 (word : UInt64) : (Number.ofUInt64 word).toUInt64? = some word := by
  have h : (Number.ofUInt64 word).toUInt64? =
      if word.toNat < UInt64.size then some (UInt64.ofNat word.toNat) else none := rfl
  rw [h, if_pos word.toNat_lt, UInt64.ofNat_toNat]

namespace OffsetCursor

theorem ofTree?_toJson (cursor : OffsetCursor) : ofTree? cursor.toJson.tree = some cursor := by
  have hf : cursor.toJson.tree.fields? ["offset"] 1 =
      some [some (.number (some (.ofUInt64 cursor.offset)))] := rfl
  rw [ofTree?, hf]
  simp only [Option.bind_eq_bind, Option.bind_some, Tree.count?, toUInt64?_ofUInt64]

theorem hasWords_toJson (cursor : OffsetCursor) : cursor.toJson.HasWords :=
  ⟨⟨cursor.offset, rfl⟩, trivial⟩

/-- An offset cursor is read back from its text. -/
theorem decode_encode (cursor : OffsetCursor) : decode cursor.encode = .ok cursor :=
  Cursor.read_write cursor.hasWords_toJson cursor.ofTree?_toJson

theorem isEmpty_encode (cursor : OffsetCursor) : cursor.encode.isEmpty = false :=
  Cursor.isEmpty_write _

theorem start_encode (offset : UInt64) : start (some (encode ⟨offset⟩)) = .ok offset := by
  simp only [start, isEmpty_encode, Bool.false_eq_true, if_false, decode_encode]
  rfl

end OffsetCursor

namespace SortKey

theorem hasWords_toJson (key : SortKey) : key.toJson.HasWords := by
  obtain ⟨field, ascending, name, digest⟩ := key
  cases name <;> cases digest <;> exact ⟨trivial, trivial, trivial, trivial, trivial⟩

theorem ofTree?_toJson (key : SortKey) : ofTree? key.toJson.tree = some key := by
  obtain ⟨field, ascending, name, digest⟩ := key
  cases name <;> cases digest <;> rfl

theorem items?_toJson (keys : List SortKey) :
    (Json.trees (keys.map toJson)).mapM ofTree? = some keys := by
  induction keys with
  | nil => rfl
  | cons key rest ih =>
      rw [List.map_cons, Json.trees, List.mapM_cons, ofTree?_toJson, ih]
      rfl

end SortKey

theorem items?_strings (texts : List String) :
    (Json.trees (texts.map .string)).mapM Tree.text? = some texts := by
  induction texts with
  | nil => rfl
  | cons text rest ih =>
      rw [List.map_cons, Json.trees, List.mapM_cons, ih]
      rfl

theorem itemsHaveWords_strings (texts : List String) :
    Json.ItemsHaveWords (texts.map .string) := by
  induction texts with
  | nil => trivial
  | cons text rest ih => exact ⟨trivial, ih⟩

theorem itemsHaveWords_keys (keys : List SortKey) :
    Json.ItemsHaveWords (keys.map SortKey.toJson) := by
  induction keys with
  | nil => trivial
  | cons key rest ih => exact ⟨key.hasWords_toJson, ih⟩

namespace ModelsCursor

theorem hasWords_toJson (cursor : ModelsCursor) : cursor.toJson.HasWords := by
  obtain ⟨offset, experimentIds, filter, order⟩ := cursor
  have hfilter : (Json.ofString? filter).HasWords := by cases filter <;> trivial
  have horder : (orderJson order).HasWords := by
    cases order with
    | none => trivial
    | some keys => exact itemsHaveWords_keys keys
  exact ⟨⟨offset, rfl⟩, itemsHaveWords_strings experimentIds, hfilter, horder, trivial⟩

theorem ofTree?_toJson (cursor : ModelsCursor) : ofTree? cursor.toJson.tree = some cursor := by
  obtain ⟨offset, experimentIds, filter, order⟩ := cursor
  -- The members are found by their names, so each of them can be read on its own.
  have hf : (toJson ⟨offset, experimentIds, filter, order⟩).tree.fields? names 4 =
      some [some (.number (some (.ofUInt64 offset))),
        some (.array (Json.trees (experimentIds.map .string))),
        some (Json.ofString? filter).tree, some (orderJson order).tree] := rfl
  -- Members that may be missing are written as null and read back as none.
  have hfilter : Tree.optional? Tree.text? (some (Json.ofString? filter).tree) =
      some filter := by cases filter <;> rfl
  have horder : Tree.optional? (Tree.items? SortKey.ofTree?) (some (orderJson order).tree) =
      some order := by
    cases order with
    | none => rfl
    | some keys =>
        have hk := SortKey.items?_toJson keys
        simp only [orderJson, Json.tree, Tree.optional?, Tree.items?, hk, Option.map_some]
  rw [ofTree?, hf]
  simp only [Option.bind_eq_bind, Option.bind_some, Tree.count?, toUInt64?_ofUInt64,
    Tree.items?, items?_strings, hfilter, horder]

/-- A cursor for logged models is read back from its text. -/
theorem decode_encode (cursor : ModelsCursor) : decode cursor.encode = .ok cursor :=
  Cursor.read_write cursor.hasWords_toJson cursor.ofTree?_toJson

theorem isEmpty_encode (cursor : ModelsCursor) : cursor.encode.isEmpty = false :=
  Cursor.isEmpty_write _

end ModelsCursor

namespace Cursor

/-- What is read back from its text is told by it. -/
theorem injective_of_read {α : Type} {encode : α → String} {decode : String → Except Error α}
    (h : ∀ cursor, decode (encode cursor) = .ok cursor) : Function.Injective encode := by
  intro a b hab
  have hread := h a
  rw [hab, h b] at hread
  exact (Except.ok.inj hread).symm

/-- Every cursor is read back from its text as it was, a search starts at the offset of its
cursor, and no two cursors share a text. -/
theorem read_back :
    (∀ cursor : OffsetCursor, OffsetCursor.decode cursor.encode = .ok cursor ∧
      OffsetCursor.start (some cursor.encode) = .ok cursor.offset) ∧
    (∀ cursor : ModelsCursor, ModelsCursor.decode cursor.encode = .ok cursor) ∧
    Function.Injective OffsetCursor.encode ∧ Function.Injective ModelsCursor.encode := by
  refine ⟨?_, ModelsCursor.decode_encode, ?_, ?_⟩
  · intro cursor
    exact ⟨cursor.decode_encode, OffsetCursor.start_encode cursor.offset⟩
  · exact injective_of_read OffsetCursor.decode_encode
  · exact injective_of_read ModelsCursor.decode_encode

end Cursor

end Gatehouse

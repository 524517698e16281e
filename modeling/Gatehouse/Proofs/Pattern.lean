import Gatehouse.Proofs.Text.Split
import Gatehouse.Route

/-!
# Patterns

A pattern reads a path character by character, and tries a run of every length behind which the
rest can follow. A template says what each segment has to be. Both come to the same: a step asks
for no slash, and behind it either nothing or a slash is asked for, so a run that stops before
the end of its segment leads nowhere, and there is only one way to divide the path.

Templates are compared with paths as pieces of characters, so that what a table of templates says
can be found by going through its characters.

## Main definitions

* `Step.name?`, `Step.ofPiece`: What a piece of a template is.
* `Template.matchPieces`: What the pieces of a template capture of the pieces of a path.
* `Pattern.Closed`, `Pattern.IsTail`: What is asked for behind a segment, and what stands there.

## Theorems

* `Template.ofText_eq`: The template of a text has the pieces of the text.
* `Template.matchPieces_literal`, `Template.matchPieces_capture`, `Template.matchPieces_append`,
  `Template.name_of_mem_captures`: What is captured, and under which names.
* `Pattern.longestRun?_append`: A run takes all of its segment.
* `Template.match?_pattern`, `Template.match?_ofText`: A pattern captures what its template says.
* `Template.overlaps_of_matchPieces`: Templates that match the same path overlap.
-/

namespace Gatehouse

open Text

/-- The name under which a piece of a template captures, if it does. -/
def Step.name? : List Char → Option (List Char)
  | '<' :: rest => if rest.getLast? = some '>' then some rest.dropLast else none
  | _ => none

/-- The step that a piece of a template is. -/
def Step.ofPiece (piece : List Char) : Step :=
  match name? piece with
  | some name => .capture (String.ofList name)
  | none => .literal (String.ofList piece)

/-- A name and a value as texts. -/
def textPair (pair : List Char × List Char) : String × String :=
  (String.ofList pair.1, String.ofList pair.2)

namespace Template

theorem ofText_eq (text : String) :
    ofText text = (splitOn '/' text.toList).map Step.ofPiece := by
  rw [ofText, Path.segments, List.map_map]
  refine List.map_congr_left ?_
  intro piece _
  simp only [Function.comp_apply, String.toList_ofList]
  rw [Step.ofPiece]
  split
  · next rest _ =>
    rw [Step.name?]
    -- A piece that opens a bracket has a name only if it closes it.
    by_cases hlast : rest.getLast? = some '>'
    · simp only [hlast, if_true]
    · simp only [hlast, if_false]
  · next hother =>
    have hnone : Step.name? piece = none := by
      unfold Step.name?
      split
      · next rest _ => exact (hother rest rfl).elim
      · rfl
    rw [hnone]

/-- What the pieces of a template capture of the pieces of a path. -/
def matchPieces : List (List Char) → List (List Char) → Option (List (List Char × List Char))
  | [], [] => some []
  | text :: steps, segment :: rest =>
    match Step.name? text with
    | none => if segment = text then matchPieces steps rest else none
    | some name =>
      if segment.isEmpty then none else (matchPieces steps rest).map ((name, segment) :: ·)
  | _, _ => none

/-- A piece that captures nothing stands in the path as it is. -/
theorem matchPieces_literal {piece : List Char} {steps segments : List (List Char)}
    {captures : List (List Char × List Char)} (hname : Step.name? piece = none) :
    matchPieces (piece :: steps) segments = some captures ↔
      ∃ rest, segments = piece :: rest ∧ matchPieces steps rest = some captures := by
  constructor
  · intro h
    cases segments with
    | nil => exact nomatch h
    | cons segment rest =>
        rw [matchPieces, hname] at h
        dsimp only at h
        by_cases hsame : segment = piece
        · rw [if_pos hsame] at h
          exact ⟨rest, by rw [hsame], h⟩
        · rw [if_neg hsame] at h
          exact nomatch h
  · rintro ⟨rest, rfl, hrest⟩
    rw [matchPieces, hname]
    dsimp only
    rw [if_pos rfl, hrest]

/-- Pieces that capture nothing stand in the path as they are. -/
theorem matchPieces_append {front steps segments : List (List Char)}
    {captures : List (List Char × List Char)} (hfront : ∀ piece ∈ front, Step.name? piece = none)
    (h : matchPieces (front ++ steps) segments = some captures) :
    ∃ rest, segments = front ++ rest ∧ matchPieces steps rest = some captures := by
  induction front generalizing segments with
  | nil => exact ⟨segments, rfl, h⟩
  | cons piece front ih =>
      rcases (matchPieces_literal (hfront piece List.mem_cons_self)).1 h with ⟨rest, rfl, hrest⟩
      rcases ih (fun p hp => hfront p (List.mem_cons_of_mem piece hp)) hrest with
        ⟨more, rfl, hmatch⟩
      exact ⟨more, rfl, hmatch⟩

/-- A piece with a name captures one segment, which is not empty. -/
theorem matchPieces_capture {piece name : List Char} {steps segments : List (List Char)}
    {captures : List (List Char × List Char)} (hname : Step.name? piece = some name) :
    matchPieces (piece :: steps) segments = some captures ↔
      ∃ value rest more, segments = value :: rest ∧ captures = (name, value) :: more ∧
        value ≠ [] ∧ matchPieces steps rest = some more := by
  constructor
  · intro h
    cases segments with
    | nil => exact nomatch h
    | cons segment rest =>
        rw [matchPieces, hname] at h
        dsimp only at h
        by_cases hempty : segment.isEmpty = true
        · rw [if_pos hempty] at h
          exact nomatch h
        · rw [if_neg hempty] at h
          rcases Option.map_eq_some_iff.1 h with ⟨more, hmore, hcons⟩
          exact ⟨segment, rest, more, rfl, hcons.symm, mt List.isEmpty_iff.2 hempty, hmore⟩
  · rintro ⟨value, rest, more, rfl, rfl, hvalue, hmore⟩
    rw [matchPieces, hname]
    dsimp only
    rw [if_neg (mt List.isEmpty_iff.1 hvalue), hmore, Option.map_some]

/-- Names are captured under the names of pieces only. -/
theorem name_of_mem_captures {steps segments : List (List Char)}
    {captures : List (List Char × List Char)} (h : matchPieces steps segments = some captures) :
    ∀ c ∈ captures, ∃ piece ∈ steps, Step.name? piece = some c.1 := by
  induction steps generalizing segments captures with
  | nil =>
      cases segments with
      | nil =>
          obtain rfl := Option.some.inj h
          exact fun _ hc => nomatch hc
      | cons => exact nomatch h
  | cons piece steps ih =>
      intro c hc
      cases hname : Step.name? piece with
      | none =>
          -- A literal piece captures nothing, so the name is that of a later piece.
          rcases (matchPieces_literal hname).1 h with ⟨rest, -, hrest⟩
          rcases ih hrest c hc with ⟨p, hp, hsame⟩
          exact ⟨p, List.mem_cons_of_mem piece hp, hsame⟩
      | some name =>
          rcases (matchPieces_capture hname).1 h with ⟨value, rest, more, -, rfl, -, hrest⟩
          rcases List.mem_cons.1 hc with rfl | hmore
          · exact ⟨piece, List.mem_cons_self, hname⟩
          · rcases ih hrest c hmore with ⟨p, hp, hsame⟩
            exact ⟨p, List.mem_cons_of_mem piece hp, hsame⟩

end Template

namespace Pattern

/-- Such a pattern matches nothing that goes on with another character than a slash. -/
def Closed (pattern : Pattern) : Prop :=
  ∀ c rest, c ≠ '/' → pattern.match? (c :: rest) = none

theorem closed_nil : Closed [] := fun _ _ _ => rfl

theorem closed_slash (pattern : Pattern) : Closed (.char '/' :: pattern) := by
  intro c rest hc
  rw [match?, if_neg hc]

/-- What is left of a path behind a segment: nothing, or what starts with a slash. -/
def IsTail (tail : List Char) : Prop := ∀ c rest, tail = c :: rest → c = '/'

theorem isTail_nil : IsTail [] := by
  intro c rest h
  exact nomatch h

theorem isTail_slash (rest : List Char) : IsTail ('/' :: rest) := by
  intro c more h
  exact (List.cons.inj h).1.symm

/-- A run takes all characters up to the next slash: behind a shorter one nothing is found. -/
theorem longestRun?_append {α : Type} {behind : List Char → Option α}
    (hbehind : ∀ c rest, c ≠ '/' → behind (c :: rest) = none) {piece tail : List Char}
    (hpiece : '/' ∉ piece) (htail : IsTail tail) :
    longestRun? behind (piece ++ tail) =
      if piece.isEmpty then none else (behind tail).map (piece, ·) := by
  induction piece with
  | nil =>
      cases tail with
      | nil => rfl
      | cons c rest =>
          rw [List.nil_append, longestRun?, if_pos (htail c rest rfl)]
          rfl
  | cons c piece ih =>
      rw [List.mem_cons, not_or] at hpiece
      rw [List.cons_append, longestRun?, if_neg (Ne.symm hpiece.1), ih hpiece.2]
      cases piece with
      | nil => rfl
      | cons d piece =>
          -- The run could only stop before `d`, and behind that nothing is found.
          have hshort : behind (d :: piece ++ tail) = none :=
            hbehind d (piece ++ tail) fun hd => hpiece.2 (hd ▸ List.mem_cons_self)
          rw [hshort]
          cases behind tail <;> rfl

/-- A text without slashes is that of a segment, or there is no match. -/
theorem match?_literal {pattern : Pattern} (hpattern : pattern.Closed) {text piece tail : List Char}
    (htext : '/' ∉ text) (hpiece : '/' ∉ piece) (htail : IsTail tail) :
    match? (text.map .char ++ pattern) (piece ++ tail) =
      if piece = text then pattern.match? tail else none := by
  -- Text and piece are compared from the front, character by character.
  induction text generalizing piece with
  | nil =>
      cases piece with
      | nil => rfl
      | cons d piece =>
          -- The text has ended and the piece has not, and what follows does not match inside of a
          -- piece.
          rw [if_neg (List.cons_ne_nil d piece)]
          exact hpattern d (piece ++ tail) fun hd => hpiece (hd ▸ List.mem_cons_self)
  | cons c text ih =>
      rw [List.mem_cons, not_or] at htext
      cases piece with
      | nil =>
          -- The piece has ended, and behind it is a slash or nothing, neither of which the text
          -- has.
          rw [if_neg (List.cons_ne_nil c text).symm]
          cases tail with
          | nil => rfl
          | cons d rest =>
              have hd : d ≠ c := fun hd => htext.1 (hd ▸ (htail d rest rfl).symm)
              rw [List.nil_append, List.map_cons, List.cons_append, match?, if_neg hd]
      | cons d piece =>
          rw [List.mem_cons, not_or] at hpiece
          rw [List.map_cons, List.cons_append, List.cons_append, match?, ih htext.2 hpiece.2]
          by_cases hd : d = c
          · simp only [hd, if_true, List.cons.injEq, true_and]
          · simp only [hd, if_false, List.cons.injEq, false_and]

/-- A step asks for one segment. -/
theorem match?_items {pattern : Pattern} (hpattern : pattern.Closed) {text piece tail : List Char}
    (htext : '/' ∉ text) (hpiece : '/' ∉ piece) (htail : IsTail tail) :
    match? ((Step.ofPiece text).items ++ pattern) (piece ++ tail) =
      match Step.name? text with
      | none => if piece = text then pattern.match? tail else none
      | some name =>
        if piece.isEmpty then none
        else (pattern.match? tail).map (textPair (name, piece) :: ·) := by
  rw [Step.ofPiece]
  cases Step.name? text with
  | none =>
      dsimp only
      rw [Step.items, String.toList_ofList]
      exact match?_literal hpattern htext hpiece htail
  | some name =>
      dsimp only
      rw [Step.items, List.singleton_append, match?, longestRun?_append hpattern hpiece htail]
      split
      · rfl
      · rw [Option.map_map]
        rfl

end Pattern

namespace Template

/-- The pattern of a template captures of a path what the template captures of its segments. -/
theorem match?_pattern {pieces segments : List (List Char)} (hpieces : pieces ≠ [])
    (hsegments : segments ≠ []) (hplain : ∀ piece ∈ pieces, '/' ∉ piece)
    (hapart : ∀ segment ∈ segments, '/' ∉ segment) :
    (pattern (pieces.map Step.ofPiece)).match? (joinWith '/' segments) =
      (matchPieces pieces segments).map (·.map textPair) := by
  -- By induction on the template; of the path one segment is taken along with each step.
  induction pieces generalizing segments with
  | nil => exact absurd rfl hpieces
  | cons text steps ih =>
      cases segments with
      | nil => exact absurd rfl hsegments
      | cons segment rest =>
          -- What is left of both behind the first segment, and what comes of that.
          have hleft : ∃ more tail, Pattern.Closed more ∧ Pattern.IsTail tail ∧
              pattern ((text :: steps).map Step.ofPiece) = (Step.ofPiece text).items ++ more ∧
              joinWith '/' (segment :: rest) = segment ++ tail ∧
              more.match? tail = (matchPieces steps rest).map (·.map textPair) := by
            cases steps with
            | nil =>
                cases rest with
                | nil =>
                    exact ⟨[], [], Pattern.closed_nil, Pattern.isTail_nil,
                      (List.append_nil _).symm, (List.append_nil _).symm, rfl⟩
                | cons next rest =>
                    exact ⟨[], '/' :: joinWith '/' (next :: rest), Pattern.closed_nil,
                      Pattern.isTail_slash _, (List.append_nil _).symm, rfl, rfl⟩
            | cons step steps =>
                cases rest with
                | nil =>
                    exact ⟨.char '/' :: pattern ((step :: steps).map Step.ofPiece), [],
                      Pattern.closed_slash _, Pattern.isTail_nil, rfl,
                      (List.append_nil _).symm, rfl⟩
                | cons next rest =>
                    refine ⟨.char '/' :: pattern ((step :: steps).map Step.ofPiece),
                      '/' :: joinWith '/' (next :: rest), Pattern.closed_slash _,
                      Pattern.isTail_slash _, rfl, rfl, ?_⟩
                    rw [Pattern.match?, if_pos rfl]
                    exact ih (List.cons_ne_nil step steps) (List.cons_ne_nil next rest)
                      (fun piece hpiece => hplain piece (List.mem_cons_of_mem text hpiece))
                      fun piece hpiece => hapart piece (List.mem_cons_of_mem segment hpiece)
          rcases hleft with ⟨more, tail, hmore, htail, hpattern, hjoin, hrest⟩
          rw [hpattern, hjoin, Pattern.match?_items hmore (hplain text List.mem_cons_self)
            (hapart segment List.mem_cons_self) htail, hrest, matchPieces]
          cases Step.name? text with
          | none =>
              dsimp only
              split <;> rfl
          | some name =>
              dsimp only
              split
              · rfl
              · rw [Option.map_map, Option.map_map]
                rfl

/-- The pattern of a text captures what the pieces of the text capture. -/
theorem match?_ofText (text path : String) : (ofText text).pattern.match? path.toList =
    (matchPieces (splitOn '/' text.toList) (splitOn '/' path.toList)).map (·.map textPair) := by
  have hapart (text : List Char) : ∀ piece ∈ splitOn '/' text, '/' ∉ piece :=
    fun piece hpiece hslash => (mem_splitOn hpiece hslash).2 rfl
  have h := match?_pattern (splitOn_ne_nil '/' text.toList) (splitOn_ne_nil '/' path.toList)
    (hapart text.toList) (hapart path.toList)
  rwa [joinWith_splitOn, ← ofText_eq] at h

/-- Pieces that capture nothing match themselves, and capture nothing. -/
theorem matchPieces_self {pieces : List (List Char)}
    (h : ∀ piece ∈ pieces, Step.name? piece = none) : matchPieces pieces pieces = some [] := by
  induction pieces with
  | nil => rfl
  | cons piece rest ih =>
      rw [matchPieces, h piece List.mem_cons_self]
      dsimp only
      rw [if_pos rfl]
      exact ih fun other hother => h other (List.mem_cons_of_mem piece hother)

/-- They match nothing else. -/
theorem eq_of_matchPieces {pieces segments : List (List Char)}
    {captures : List (List Char × List Char)} (hplain : ∀ piece ∈ pieces, Step.name? piece = none)
    (h : matchPieces pieces segments = some captures) : segments = pieces ∧ captures = [] := by
  rw [← List.append_nil pieces] at h
  rcases matchPieces_append hplain h with ⟨rest, hsegments, hrest⟩
  cases rest with
  | nil => exact ⟨by rw [hsegments, List.append_nil], (Option.some.inj hrest).symm⟩
  | cons => exact nomatch hrest

/-- Whether two lists of pieces may match the same segments: they are equally long, and where both
are literal they are the same. -/
def overlaps : List (List Char) → List (List Char) → Bool
  | [], [] => true
  | a :: as, b :: bs =>
    ((Step.name? a).isSome || (Step.name? b).isSome || a = b) && overlaps as bs
  | _, _ => false

/-- Each piece stands for one segment, and a literal one for itself. -/
theorem matchPieces_cons {piece : List Char} {steps segments : List (List Char)}
    {captures : List (List Char × List Char)} (h : matchPieces (piece :: steps) segments =
      some captures) : ∃ segment rest more, segments = segment :: rest ∧
        matchPieces steps rest = some more ∧ (Step.name? piece = none → segment = piece) := by
  cases hname : Step.name? piece with
  | none =>
      rcases (matchPieces_literal hname).1 h with ⟨rest, hsegments, hrest⟩
      exact ⟨piece, rest, captures, hsegments, hrest, fun _ => rfl⟩
  | some name =>
      rcases (matchPieces_capture hname).1 h with ⟨segment, rest, more, hsegments, -, -, hrest⟩
      exact ⟨segment, rest, more, hsegments, hrest, fun hnone => nomatch hnone⟩

theorem overlaps_of_matchPieces {as bs segments : List (List Char)}
    {ca cb : List (List Char × List Char)} (ha : matchPieces as segments = some ca)
    (hb : matchPieces bs segments = some cb) : overlaps as bs = true := by
  induction as generalizing bs segments ca cb with
  | nil =>
      cases segments with
      | cons => exact nomatch ha
      | nil =>
          cases bs with
          | nil => rfl
          | cons => exact nomatch hb
  | cons a as ih =>
      rcases matchPieces_cons ha with ⟨segment, rest, more, rfl, hmore, hliteral⟩
      cases bs with
      | nil => exact nomatch hb
      | cons b bs =>
          rcases matchPieces_cons hb with ⟨same, left, others, hsame, hothers, hboth⟩
          obtain ⟨rfl, rfl⟩ := List.cons.inj hsame
          rw [overlaps, ih hmore hothers, Bool.and_true]
          -- Of two literal pieces each is the segment.
          cases hname : Step.name? a with
          | some => rfl
          | none =>
              cases hother : Step.name? b with
              | some => rfl
              | none => simp only [Option.isSome_none, Bool.false_or, decide_eq_true_eq,
                  ← hliteral hname, hboth hother]

end Template

end Gatehouse

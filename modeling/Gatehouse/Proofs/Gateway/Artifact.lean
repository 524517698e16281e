import Gatehouse.Proofs.Classification
import Gatehouse.Proofs.Gateway.Mediation
import Gatehouse.Proofs.Owner
import Gatehouse.Proofs.Spelling

/-!
# Artifacts

The experiment of an artifact stands in its path, and nothing else of a request decides what may be
done with it. A path has to lose nothing on the way to the check: its spelling is undone, nothing
else is found under it, the slashes in front of the experiment do not count, and the digits are
read to their end. What only starts like an artifact path is none.

## Main definitions

* `Route.artifactNeeds`: What has to be allowed for each method.
* `Route.artifactPath`: The path of an artifact.

## Theorems

* `Route.decode_artifactPath`: However the path of an artifact is spelled, it is decoded.
* `Route.checkOf?_artifactPath`: What is checked under it.
* `Route.artifactPath?_eq_none`: What only starts like one is no artifact path.
* `Gateway.grants_artifact_iff`: What a request for an artifact needs.
* `Gateway.artifacts_checked`: All of these at once.
-/

namespace Gatehouse

open Gatehouse.Action

namespace Route

open Text

/-- What has to be allowed for each method under which artifacts are read, written and deleted. -/
def artifactNeeds : List (Http.Method × Capability) :=
  [(.get, .read), (.put, .update), (.delete, .manage)]

/-- The path of an artifact: slashes, one more than given, then its experiment and what is below
that. -/
def artifactPath (more : Nat) (experiment below : String) : String :=
  artifactRoot ++ String.ofList (List.replicate (more + 1) '/') ++ experiment ++ "/" ++ below

theorem toList_artifactPath (more : Nat) (experiment below : String) :
    (artifactPath more experiment below).toList = artifactRoot.toList ++
      '/' :: (List.replicate more '/' ++ (experiment.toList ++ '/' :: below.toList)) := by
  have hslash : "/".toList = ['/'] := rfl
  simp only [artifactPath, String.toList_append, String.toList_ofList, List.replicate_succ, hslash,
    List.append_assoc, List.cons_append, List.nil_append]

/-- Only a path that goes on behind the root with a slash is an artifact path. -/
theorem artifactPath?_eq_none {path : String} {c : Char} {rest : List Char}
    (h : path.toList = artifactRoot.toList ++ c :: rest) (hc : c ≠ '/') :
    artifactPath? path = none := by
  rw [artifactPath?]
  split
  · rw [h, ← String.length_toList, List.drop_left]
    split
    · next heq => cases heq
    · next heq => exact absurd (List.cons.inj heq).1 hc
    · rfl
  · rfl

section Artifact

variable {experiment below : String} (more : Nat)

theorem startsWith_artifactPath (experiment below : String) :
    Path.startsWith artifactRoot (artifactPath more experiment below) = true := by
  rw [Path.startsWith, List.isPrefixOf_iff_prefix, toList_artifactPath]
  exact List.prefix_append _ _

/-- Artifacts are under none of the open paths. -/
theorem isOpen_artifactPath (experiment below : String) :
    Path.isOpen (artifactPath more experiment below) = false := by
  rw [← Bool.not_eq_true]
  intro hopen
  rcases List.any_eq_true.1 hopen with ⟨start, hstart, hfront⟩
  have hapart : (Path.openStarts.all fun start =>
      !artifactRoot.toList.isPrefixOf start.toList &&
        !start.toList.isPrefixOf artifactRoot.toList) = true := by
    decide +kernel
  have hroot := List.isPrefixOf_iff_prefix.1 (startsWith_artifactPath more experiment below)
  exact not_prefix_of_apart (List.all_eq_true.1 hapart start hstart) hroot
    (List.isPrefixOf_iff_prefix.1 hfront)

theorem find?_artifactPath (experiment below : String) (method : Http.Method) :
    find? (artifactPath more experiment below) method = none :=
  find?_eq_none List.mem_cons_self (startsWith_artifactPath more experiment below) method

section Digits

variable (hdigits : ∀ c ∈ experiment.toList, isDecimalDigit c = true)
include hdigits

/-- No segment of the path of an artifact is a step but those below its experiment. -/
theorem not_isStep_of_mem_artifactPath {segment : String}
    (hbelow : ∀ s ∈ Path.segments below, ¬ Path.IsStep s)
    (h : segment ∈ Path.segments (artifactPath more experiment below)) :
    ¬ Path.IsStep segment := by
  have hslash : '/' ∉ experiment.toList := by
    intro hmem
    exact absurd (hdigits _ hmem) (by decide)
  have hroot : ∀ piece ∈ splitOn '/' artifactRoot.toList, piece ≠ ['.'] ∧ piece ≠ ['.', '.'] := by
    decide +kernel
  rw [Path.segments, toList_artifactPath, splitOn_append_cons, splitOn_replicate,
    splitOn_append hslash] at h
  rcases List.mem_map.1 h with ⟨piece, hpiece, rfl⟩
  have hstep {chars : List Char} (hone : chars ≠ ['.']) (htwo : chars ≠ ['.', '.']) :
      ¬ Path.IsStep (String.ofList chars) := by
    rintro (h | h)
    · exact hone (String.ofList_injective h)
    · exact htwo (String.ofList_injective h)
  -- The pieces are those of the root, empty ones, the digits, and those of what is below.
  rcases List.mem_append.1 hpiece with hfront | hpiece
  · exact hstep (hroot piece hfront).1 (hroot piece hfront).2
  rcases List.mem_append.1 hpiece with hempty | hpiece
  · rw [List.eq_of_mem_replicate hempty]
    exact hstep (List.cons_ne_nil _ _).symm (List.cons_ne_nil _ _).symm
  rcases List.mem_cons.1 hpiece with rfl | hpiece
  · refine hstep ?_ ?_
    · intro heq
      rw [heq] at hdigits
      exact absurd (hdigits '.' List.mem_cons_self) (by decide)
    · intro heq
      rw [heq] at hdigits
      exact absurd (hdigits '.' List.mem_cons_self) (by decide)
  · exact hbelow _ (List.mem_map_of_mem hpiece)

/-- However the path of an artifact is spelled, it is decoded. -/
theorem decode_artifactPath {raw : String} (hbelow : ∀ s ∈ Path.segments below, ¬ Path.IsStep s)
    (hspells : Path.Spells raw (artifactPath more experiment below)) :
    Path.decode raw = .ok (artifactPath more experiment below) :=
  Path.decode_eq_ok_iff.2 ⟨hspells, fun _ hs =>
    not_isStep_of_mem_artifactPath more hdigits hbelow hs⟩

variable (hne : experiment ≠ "")
include hne

/-- The slashes in front of the experiment are dropped. -/
theorem artifactPath?_artifactPath : artifactPath? (artifactPath more experiment below) =
    some (experiment.toList ++ '/' :: below.toList) := by
  rcases List.exists_cons_of_ne_nil (mt String.toList_eq_nil_iff.1 hne) with ⟨c, rest, hcons⟩
  -- The experiment begins with a digit, so dropping slashes stops there.
  have hc : (c == '/') = false := by
    rw [beq_eq_false_iff_ne]
    rintro rfl
    exact absurd (hdigits '/' (hcons ▸ List.mem_cons_self)) (by decide)
  rw [artifactPath?, if_pos (startsWith_artifactPath more experiment below), toList_artifactPath,
    ← String.length_toList, List.drop_left]
  change some _ = _
  rw [List.dropWhile_append_of_pos, hcons, List.cons_append, List.dropWhile_cons_of_neg]
  · rw [hc]
    exact Bool.false_ne_true
  · intro d hd
    rw [List.eq_of_mem_replicate hd]
    rfl

/-- The digits of the experiment are read to their end. -/
theorem artifactExperiment?_digits (rest : List Char) :
    artifactExperiment? (experiment.toList ++ '/' :: rest) = some experiment := by
  have htake : (experiment.toList ++ '/' :: rest).takeWhile isDecimalDigit =
      experiment.toList := by
    rw [List.takeWhile_append_of_pos hdigits, List.takeWhile_cons_of_neg, List.append_nil]
    decide
  have hsome : ¬ experiment.toList.isEmpty = true := by
    rw [List.isEmpty_iff]
    exact mt String.toList_eq_nil_iff.1 hne
  rw [artifactExperiment?, htake, if_neg hsome, List.drop_left]
  exact congrArg some String.ofList_toList

/-- Under the path of an artifact its experiment is checked, and nothing else. -/
theorem checkOf?_artifactPath (below : String) {method : Http.Method} {capability : Capability}
    (hneeds : (method, capability) ∈ artifactNeeds) :
    Gateway.checkOf? (artifactPath more experiment below) method =
      some (.capability (.artifact (some experiment)) capability) := by
  have hcapability : artifactCapability? method = some capability := by
    simp only [artifactNeeds, List.mem_cons, Prod.mk.injEq, List.not_mem_nil, or_false] at hneeds
    rcases hneeds with ⟨rfl, rfl⟩ | ⟨rfl, rfl⟩ | ⟨rfl, rfl⟩
    · rfl
    · rfl
    · rfl
  have hempty : ¬ (experiment.toList ++ '/' :: below.toList).isEmpty = true := by
    rw [List.isEmpty_iff]
    exact List.append_ne_nil_of_right_ne_nil _ (List.cons_ne_nil _ _)
  rw [Gateway.checkOf?, find?_artifactPath, Option.bind_none, Option.none_or, artifactCheck?,
    artifactPath?_artifactPath more hdigits hne, Option.bind_some, if_neg hempty, hcapability,
    Option.map_some, artifactExperiment?_digits hdigits hne]

end Digits

end Artifact

end Route

namespace Gateway

variable {σ : Type}

/-- A request for an artifact needs the level that its sender has on its experiment to allow what
its method does. -/
theorem grants_artifact_iff {gateway : Gateway σ} {request : Http.Request} {world : World σ}
    {account : Account} {capability : Capability} {more : Nat} {experiment below : String}
    (hneeds : (request.method, capability) ∈ Route.artifactNeeds)
    (hdigits : ∀ c ∈ experiment.toList, Text.isDecimalDigit c = true) (hne : experiment ≠ "")
    (hbelow : ∀ s ∈ Path.segments below, ¬ Path.IsStep s)
    (hspells : Path.Spells request.target.path (Route.artifactPath more experiment below))
    (hsender : gateway.sender request.headers world.ledger = .ok (some account))
    (hadmin : account.admin = false) : gateway.Grants request world ↔
      ∃ level, world.ledger.Decides gateway.default account.username
        (some ⟨.experiment, experiment⟩) (.ok level) ∧ level.allows capability = true := by
  have hdecode := Route.decode_artifactPath more hdigits hbelow hspells
  have hcheck := Route.checkOf?_artifactPath more hdigits hne below hneeds
  have hholds (params : Params) :
      (exec (gateway.evaluate account params
        (.capability (.artifact (some experiment)) capability)) world).1 = .ok true ↔
      ∃ level, world.ledger.Decides gateway.default account.username
        (some ⟨.experiment, experiment⟩) (.ok level) ∧ level.allows capability = true := by
    have howner : exec ((Subject.artifact (some experiment)).owner gateway.tracker params)
        world.remote = (.ok (some ⟨.experiment, experiment⟩), world.remote) := rfl
    rw [evaluate, exec_bind_pure, Subject.exec_level howner]
    change (world.ledger.levelOn gateway.default (some ⟨.experiment, experiment⟩)
      account.username).map (·.allows capability) = .ok true ↔ _
    rw [Error.map_eq_ok_iff]
    exact exists_congr fun level => and_congr_left fun _ => Ledger.levelOn_iff
  -- No parameters are needed for such a check, and there is no follow-up.
  have hcase : caseOf account (Route.artifactPath more experiment below) request.method =
      ⟨none, none, some (.capability (.artifact (some experiment)) capability)⟩ := by
    rw [caseOf, Route.find?_artifactPath, hcheck, hadmin]
    rfl
  constructor
  · rintro ⟨path, hpath, hrest⟩
    obtain rfl := Except.ok.inj (hdecode.symm.trans hpath)
    rcases hrest with hopen | ⟨other, hadmits⟩
    · rw [Route.isOpen_artifactPath] at hopen
      cases hopen
    · have hsame := hsender.symm.trans (sender_eq_ok_iff.2 hadmits.known)
      obtain rfl := Option.some.inj (Except.ok.inj hsame)
      rcases hadmits.allowed with hbypass | hnone | ⟨check, params, hsome, -, hok⟩
      · rw [hadmin] at hbypass
        cases hbypass
      · rw [hcheck] at hnone
        cases hnone
      · obtain rfl := Option.some.inj (hcheck.symm.trans hsome)
        exact (hholds params).1 hok
  · intro hlevel
    refine ⟨_, hdecode, .inr ⟨account, sender_eq_ok_iff.1 hsender, ?_,
      .inr (.inr ⟨_, .empty, hcheck, ?_, (hholds _).2 hlevel⟩)⟩⟩
    · intro h
      rw [hcase] at h
      cases h
    · rw [hcase]
      rfl

/-- A request that reads, writes or deletes an artifact is passed on exactly if the level of its
sender on the experiment in its path allows that, however the path is spelled; he is no
administrator, and his level is that of his grant or the default where he has none. A path that goes
on behind the root with anything but a slash is no artifact path. -/
theorem artifacts_checked (gateway : Gateway σ) :
    (∀ request world account capability more experiment below,
      (request.method, capability) ∈ Route.artifactNeeds →
      experiment ≠ "" → (∀ c ∈ experiment.toList, Text.isDecimalDigit c = true) →
      (∀ s ∈ Path.segments below, ¬ Path.IsStep s) →
      Path.Spells request.target.path (Route.artifactPath more experiment below) →
      gateway.sender request.headers world.ledger = .ok (some account) →
      account.admin = false →
      ∀ passed, gateway.PassesOn request world passed ↔
        gateway.bounded? request = some passed ∧
        ∃ level, world.ledger.Decides gateway.default account.username
          (some ⟨.experiment, experiment⟩) (.ok level) ∧ level.allows capability = true) ∧
    ∀ path c rest, path.toList = Route.artifactRoot.toList ++ c :: rest → c ≠ '/' →
      Route.artifactPath? path = none ∧
      ∀ method, Route.artifactCheck? path method = none := by
  refine ⟨?_, ?_⟩
  · intro request world account capability more experiment below hneeds hne hdigits hbelow hspells
      hsender hadmin passed
    rw [passesOn_iff]
    refine and_congr_right fun hpassed => ?_
    -- What is taken has the method, the path and the headers of the request.
    have hsame := of_bounded? hpassed
    have hmethod : passed.method = request.method := by rw [hsame]
    have htarget : passed.target = request.target := by rw [hsame]
    rw [← hmethod] at hneeds
    rw [← htarget] at hspells
    rw [← headers_of_bounded? hpassed] at hsender
    exact grants_artifact_iff hneeds hdigits hne hbelow hspells hsender hadmin
  · intro path c rest hpath hc
    have hnone := Route.artifactPath?_eq_none hpath hc
    refine ⟨hnone, ?_⟩
    intro method
    rw [Route.artifactCheck?, hnone]
    rfl

/-- A request for a file of the experiment that a user may read, with some of its path coded. -/
def visit (method : Http.Method) : Http.Request :=
  ⟨method, ⟨none, "", "/api/2.0/mlflow-artifacts/%61rtifacts//%37/w.pt", none⟩,
    [("x-remote-user", "ada")], .whole []⟩

/-- A user who may read the experiment gets the file and may not write it. -/
theorem artifacts_checked_visit :
    trusting.PassesOn (visit .get) Subject.archive (visit .get) ∧
    ¬ trusting.PassesOn (visit .put) Subject.archive (visit .put) := by
  -- Slashes are repeated, and a letter and the digit of the experiment are coded.
  have hspells : Path.Spells "/api/2.0/mlflow-artifacts/%61rtifacts//%37/w.pt"
      (Route.artifactPath 1 "7" "w.pt") := by
    refine (Path.decode_eq_ok_iff.1 ?_).1
    rfl
  have hall : "7".toList.all Text.isDecimalDigit = true := by decide +kernel
  have hdigits := List.all_eq_true.1 hall
  have hbelow : ∀ s ∈ Path.segments "w.pt", ¬ Path.IsStep s := by
    unfold Path.IsStep
    decide
  have hlevel : Subject.archive.ledger.levelOn .read (some ⟨.experiment, "7"⟩) "ada" =
      .ok .read := rfl
  constructor
  · exact ((artifacts_checked trusting).1 (visit .get) Subject.archive
      ⟨1, "ada", .password "secret", false⟩ .read 1 "7" "w.pt" List.mem_cons_self (by decide)
      hdigits hbelow hspells rfl rfl _).2 ⟨rfl, .read, Ledger.levelOn_iff.1 hlevel, rfl⟩
  · intro hpasses
    rcases ((artifacts_checked trusting).1 (visit .put) Subject.archive
      ⟨1, "ada", .password "secret", false⟩ .update 1 "7" "w.pt"
      (List.mem_cons_of_mem _ List.mem_cons_self) (by decide) hdigits hbelow hspells rfl rfl
      _).1 hpasses with ⟨-, level, hdecides, hallows⟩
    obtain rfl := Except.ok.inj (hlevel.symm.trans (Ledger.levelOn_iff.2 hdecides))
    exact nomatch hallows

end Gateway

end Gatehouse

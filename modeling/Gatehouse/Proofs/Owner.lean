import Gatehouse.Proofs.Visibility

/-!
# Owners found, and the level on them

That something does not exist means two things. A grant that does not exist leaves the decision to
the default; a run, a logged model or an experiment that does not exist fails the check. Both come
as the same kind of error, so it is told case by case which resource decides and what the level on
it is, without a word of errors that are passed on or turned into a default: the default is there
in two cases only, and both of them say that nothing failed.

## Main definitions

* `Subject.names`, `Subject.ask?`: What names a subject, and what is asked about it.
* `Subject.Belongs`: Which resource owns what a request is about, or why none is found.
* `Grant.Concerns`, `Ledger.Stored`, `Ledger.Lacks`: The grant of a user on an owner.
* `Ledger.Decides`: The level of a user on an owner, or why there is none.
* `Subject.Resolves`: The level of a user on what a request is about, or why there is none.

## Theorems

* `Subject.exec_owner_iff`: The owner that is found is the one that it belongs to.
* `Ledger.levelOn_iff`: The level that is found is the one that decides.
* `Ledger.stored_of_mem`: A user has one grant on an owner at most.
* `Subject.resolved`: Both together, and what inherits from an experiment.
-/

namespace Gatehouse

open Gatehouse.Action World

variable {σ : Type}

namespace Subject

/-- The parameters that may name what a request is about; the first one that has a text counts. -/
def names : Subject → List String
  | experimentId => ["experiment_id"]
  | experimentName => ["experiment_name"]
  | runId => ["run_id", "run_uuid"]
  | loggedModelId => ["model_id"]
  | modelName => ["name"]
  | artifact _ => []

/-- What the tracker is asked about the name of a subject that it has to be asked about: the
experiment, if there is one. -/
def ask? (tracker : Tracker σ) : Subject → Option (String → Action σ (Option String))
  | experimentName => some tracker.experimentNamed
  | runId => some fun run => some <$> tracker.runExperiment run
  | loggedModelId => some fun model => some <$> tracker.loggedModelExperiment model
  | experimentId | modelName | artifact _ => none

/-- The owner of what a request is about, if it has one, or why none is found; with what asking
for it makes of the tracker. -/
inductive Belongs (tracker : Tracker σ) (params : Params) (s : σ) :
    Subject → Except Error (Option Owner) → σ → Prop
  | unnamed {subject : Subject} {last : String} (hlast : subject.names.getLast? = some last)
      (hnone : ∀ name ∈ subject.names, params.get? name = none) :
      Belongs tracker params s subject (.error (.missingParameter last)) s
  | itself (kind : Kind) {key : String} (hkey : params.get? kind.keyName = some key) :
      Belongs tracker params s kind.subject (.ok (some ⟨kind, key⟩)) s
  | reported {subject : Subject} {ask : String → Action σ (Option String)} {text id : String}
      {s' : σ} (hask : subject.ask? tracker = some ask)
      (htext : subject.names.findSome? params.get? = some text)
      (hreport : exec (ask text) s = (.ok (some id), s')) :
      Belongs tracker params s subject (.ok (some ⟨.experiment, id⟩)) s'
  | unknown {subject : Subject} {ask : String → Action σ (Option String)} {text : String}
      {s' : σ} (hask : subject.ask? tracker = some ask)
      (htext : subject.names.findSome? params.get? = some text)
      (hreport : exec (ask text) s = (.ok none, s')) :
      Belongs tracker params s subject (.error (.absent (.experimentNamed text))) s'
  | failed {subject : Subject} {ask : String → Action σ (Option String)} {text : String}
      {e : Error} {s' : σ} (hask : subject.ask? tracker = some ask)
      (htext : subject.names.findSome? params.get? = some text)
      (hreport : exec (ask text) s = (.error e, s')) :
      Belongs tracker params s subject (.error e) s'
  | artifact (experiment : Option String) :
      Belongs tracker params s (.artifact experiment) (.ok (experiment.map (⟨.experiment, ·⟩))) s

end Subject

/-- A grant is on the key of an owner and to a user of a name. -/
def Grant.Concerns (accounts : List Account) (owner : Owner) (username : String)
    (grant : Grant) : Prop :=
  grant.key = owner.key ∧
    ∃ account ∈ accounts, account.id = grant.holder ∧ account.username = username

namespace Ledger

/-- The grant of a user on an owner: the first one in the table of its kind. -/
def Stored (ledger : Ledger) (owner : Owner) (username : String) (row : Grant) : Prop :=
  ∃ grants accounts before behind, ledger.grants? owner.kind = some grants ∧
    ledger.accounts = some accounts ∧ grants.rows = before ++ row :: behind ∧
    row.Concerns accounts.rows owner username ∧
    ∀ other ∈ before, ¬ other.Concerns accounts.rows owner username

/-- The tables are there, and no grant in them is one of the user on the owner. -/
def Lacks (ledger : Ledger) (owner : Owner) (username : String) : Prop :=
  ∃ grants accounts, ledger.grants? owner.kind = some grants ∧
    ledger.accounts = some accounts ∧
    ∀ row ∈ grants.rows, ¬ row.Concerns accounts.rows owner username

/-- The level of a user on what owns something, if anything does, or why there is none. -/
inductive Decides (ledger : Ledger) (default : Level) (username : String) :
    Option Owner → Except Error Level → Prop
  | unowned : Decides ledger default username none (.ok default)
  | ungranted {owner : Owner} (hnone : ledger.Lacks owner username) :
      Decides ledger default username (some owner) (.ok default)
  | granted {owner : Owner} {row : Grant} {level : Level}
      (hrow : ledger.Stored owner username row) (hlevel : row.level = level.name) :
      Decides ledger default username (some owner) (.ok level)
  | spoiled {owner : Owner} {row : Grant} (hrow : ledger.Stored owner username row)
      (hlevel : ∀ level : Level, row.level ≠ level.name) :
      Decides ledger default username (some owner) (.error (.badLevel row.level))
  | noGrants {owner : Owner} (htable : ledger.grants? owner.kind = none) :
      Decides ledger default username (some owner) (.error (missing owner.kind.table))
  | noAccounts {owner : Owner} {grants : Table Grant}
      (hgrants : ledger.grants? owner.kind = some grants) (htable : ledger.accounts = none) :
      Decides ledger default username (some owner) (.error (missing "users"))

end Ledger

/-- The level of a user on what a request is about, or why there is none; with what finding it
makes of the tracker. -/
inductive Subject.Resolves (tracker : Tracker σ) (default : Level) (subject : Subject)
    (params : Params) (username : String) (world : World σ) :
    Except Error Level → World σ → Prop
  | lost {e : Error} {remote : σ}
      (howner : subject.Belongs tracker params world.remote (.error e) remote) :
      Resolves tracker default subject params username world (.error e) ⟨world.ledger, remote⟩
  | decided {owner : Option Owner} {outcome : Except Error Level} {remote : σ}
      (howner : subject.Belongs tracker params world.remote (.ok owner) remote)
      (hlevel : world.ledger.Decides default username owner outcome) :
      Resolves tracker default subject params username world outcome ⟨world.ledger, remote⟩

/-- A required parameter that goes by one name only. -/
theorem Params.get_eq {name : String} (h : name ≠ "run_id") (params : Params) :
    params.get name = match [name].findSome? params.get? with
      | some text => .ok text
      | none => .error (.missingParameter name) := by
  cases hvalue : params.get? name with
  | some text => simp only [get, List.findSome?_singleton, hvalue]
  | none => simp only [get, if_neg h, List.findSome?_singleton, hvalue]

namespace Subject

section Owner

variable {tracker : Tracker σ} {params : Params} {s : σ} {subject : Subject}

/-- A required parameter is looked for under all names that it may go by. -/
theorem get_eq (params : Params) {first : String} (h : subject.names.head? = some first) :
    ∃ last, subject.names.getLast? = some last ∧ params.get first =
      match subject.names.findSome? params.get? with
      | some text => .ok text
      | none => .error (.missingParameter last) := by
  cases subject with
  | artifact => exact nomatch h
  | runId =>
      obtain rfl := Option.some.inj h
      -- Only a run may be named in two ways.
      refine ⟨"run_uuid", rfl, ?_⟩
      rw [Params.get, names, List.findSome?_cons, List.findSome?_singleton]
      cases params.get? "run_id" <;> rfl
  | _ =>
      obtain rfl := Option.some.inj h
      exact ⟨_, rfl, Params.get_eq (by decide) params⟩

/-- Without a name nothing is asked. -/
theorem exec_owner_unnamed {last : String} (hlast : subject.names.getLast? = some last)
    (hnone : subject.names.findSome? params.get? = none) :
    exec (subject.owner tracker params) s = (.error (.missingParameter last), s) := by
  have hfirst {first : String} (h : subject.names.head? = some first) :
      params.get first = .error (.missingParameter last) := by
    rcases get_eq params h with ⟨other, hother, hget⟩
    rw [hnone] at hget
    rw [hget, Option.some.inj (hlast.symm.trans hother)]
  cases subject with
  | artifact => exact nomatch hlast
  | _ => exact exec_bind_of_error (hfirst rfl) _ _

/-- What the tracker has to be asked about belongs to the experiment that it reports. -/
theorem exec_owner_asked {ask : String → Action σ (Option String)} {text : String}
    (hask : subject.ask? tracker = some ask)
    (htext : subject.names.findSome? params.get? = some text) :
    exec (subject.owner tracker params) s = match exec (ask text) s with
      | (.ok (some id), s') => (.ok (some ⟨.experiment, id⟩), s')
      | (.ok none, s') => (.error (.absent (.experimentNamed text)), s')
      | (.error e, s') => (.error e, s') := by
  -- The text under one of the names is what the first one is read as.
  have hfirst {first : String} (h : subject.names.head? = some first) :
      params.get first = .ok text := by
    rcases get_eq params h with ⟨last, -, hget⟩
    rw [htext] at hget
    exact hget
  cases subject with
  | experimentName =>
      obtain rfl := Option.some.inj hask
      rw [owner, exec_bind_of_ok (hfirst rfl), exec_bind]
      rcases exec (tracker.experimentNamed text) s with ⟨e | found, s'⟩
      · rfl
      · cases found <;> rfl
  | runId =>
      obtain rfl := Option.some.inj hask
      rw [owner, exec_bind_of_ok (hfirst rfl), exec_bind_pure, exec_map]
      rcases exec (tracker.runExperiment text) s with ⟨e | id, s'⟩ <;> rfl
  | loggedModelId =>
      obtain rfl := Option.some.inj hask
      rw [owner, exec_bind_of_ok (hfirst rfl), exec_bind_pure, exec_map]
      rcases exec (tracker.loggedModelExperiment text) s with ⟨e | id, s'⟩ <;> rfl
  | _ => cases hask

theorem exec_owner_itself {kind : Kind} {key : String} (hkey : params.get? kind.keyName = some key) :
    exec (kind.subject.owner tracker params) s = (.ok (some ⟨kind, key⟩), s) := by
  have hget : params.get kind.keyName = .ok key := by
    rw [Params.get, hkey]
  cases kind with
  | experiment => exact exec_bind_of_ok hget _ _
  | model => exact exec_bind_of_ok hget _ _

/-- What a subject is: a resource of its own, something to ask about, or an artifact. -/
theorem kinds (tracker : Tracker σ) (subject : Subject) : (∃ kind : Kind, subject = kind.subject) ∨
    (∃ ask last, subject.ask? tracker = some ask ∧ subject.names.getLast? = some last) ∨
    ∃ experiment, subject = .artifact experiment := by
  cases subject with
  | experimentId => exact .inl ⟨.experiment, rfl⟩
  | modelName => exact .inl ⟨.model, rfl⟩
  | artifact experiment => exact .inr (.inr ⟨experiment, rfl⟩)
  | _ => exact .inr (.inl ⟨_, _, rfl, rfl⟩)

theorem Belongs.exec_eq {outcome : Except Error (Option Owner)} {s' : σ}
    (h : subject.Belongs tracker params s outcome s') :
    exec (subject.owner tracker params) s = (outcome, s') := by
  cases h with
  | unnamed hlast hnone => exact exec_owner_unnamed hlast (List.findSome?_eq_none_iff.2 hnone)
  | itself kind hkey => exact exec_owner_itself hkey
  | reported hask htext hreport => rw [exec_owner_asked hask htext, hreport]
  | unknown hask htext hreport => rw [exec_owner_asked hask htext, hreport]
  | failed hask htext hreport => rw [exec_owner_asked hask htext, hreport]
  | artifact experiment => rfl

/-- Something is always found, or there is a reason why not. -/
theorem exists_belongs (tracker : Tracker σ) (params : Params) (subject : Subject) (s : σ) :
    ∃ outcome s', subject.Belongs tracker params s outcome s' := by
  rcases kinds tracker subject with ⟨kind, rfl⟩ | ⟨ask, last, hask, hlast⟩ | ⟨experiment, rfl⟩
  · cases hkey : params.get? kind.keyName with
    | some key => exact ⟨_, _, .itself kind hkey⟩
    | none =>
        have hlast : kind.subject.names.getLast? = some kind.keyName := by
          cases kind <;> rfl
        refine ⟨_, _, .unnamed hlast ?_⟩
        intro name hname
        obtain rfl : name = kind.keyName := by
          cases kind <;> exact List.mem_singleton.1 hname
        exact hkey
  · cases htext : subject.names.findSome? params.get? with
    | none => exact ⟨_, _, .unnamed hlast (List.findSome?_eq_none_iff.1 htext)⟩
    | some text =>
        rcases hreport : exec (ask text) s with ⟨e | found, s'⟩
        · exact ⟨_, _, .failed hask htext hreport⟩
        · cases found with
          | none => exact ⟨_, _, .unknown hask htext hreport⟩
          | some id => exact ⟨_, _, .reported hask htext hreport⟩
  · exact ⟨_, _, .artifact experiment⟩

/-- The owner that is found is the one that the subject belongs to. -/
theorem exec_owner_iff {outcome : Except Error (Option Owner)} {s' : σ} :
    exec (subject.owner tracker params) s = (outcome, s') ↔
      subject.Belongs tracker params s outcome s' := by
  constructor
  · intro h
    rcases exists_belongs tracker params subject s with ⟨found, after, hbelongs⟩
    obtain ⟨rfl, rfl⟩ := Prod.mk.inj (h.symm.trans hbelongs.exec_eq)
    exact hbelongs
  · exact Belongs.exec_eq

end Owner

end Subject

theorem Level.ofName_eq_error {name : String} (h : ∀ level : Level, name ≠ level.name) :
    ofName name = .error (.badLevel name) := by
  have hnone : all.find? (·.name = name) = none := by
    rw [List.find?_eq_none]
    intro level _ hsame
    exact h level (of_decide_eq_true hsame).symm
  rw [ofName, hnone]

theorem Grant.concerns_iff {accounts : List Account} {owner : Owner} {username : String}
    {grant : Grant} : grant.Concerns accounts owner username ↔
      (grant.key = owner.key && Ledger.belongs accounts username grant) = true := by
  simp only [Concerns, Ledger.belongs, Bool.and_eq_true, decide_eq_true_eq, List.any_eq_true]

namespace Ledger

variable {ledger : Ledger} {owner : Owner} {username : String} {row : Grant}

theorem stored_iff : ledger.Stored owner username row ↔
    ledger.findGrant owner.kind owner.key username = .ok row := by
  rw [findGrant_eq_ok_iff]
  -- A search from the front ends at the first row that concerns the user.
  constructor
  · rintro ⟨grants, accounts, before, behind, hgrants, haccounts, hrows, hrow, hfirst⟩
    refine ⟨grants, accounts, hgrants, haccounts, ?_⟩
    rw [List.find?_eq_some_iff_append]
    refine ⟨Grant.concerns_iff.1 hrow, before, behind, hrows, ?_⟩
    intro other hother
    rw [Bool.not_eq_true', ← Bool.not_eq_true, ← Grant.concerns_iff]
    exact hfirst other hother
  · rintro ⟨grants, accounts, hgrants, haccounts, hfind⟩
    rw [List.find?_eq_some_iff_append] at hfind
    rcases hfind with ⟨hrow, before, behind, hrows, hfirst⟩
    refine ⟨grants, accounts, before, behind, hgrants, haccounts, hrows,
      Grant.concerns_iff.2 hrow, ?_⟩
    intro other hother hconcerns
    have hnot := hfirst other hother
    rw [Grant.concerns_iff.1 hconcerns] at hnot
    exact nomatch hnot

theorem Lacks.findGrant_eq (h : ledger.Lacks owner username) :
    ledger.findGrant owner.kind owner.key username =
      .error (owner.kind.absent owner.key username) := by
  rcases h with ⟨grants, accounts, hgrants, haccounts, hnone⟩
  have hfind : grants.rows.find? (fun grant => grant.key = owner.key &&
      belongs accounts.rows username grant) = none := by
    rw [List.find?_eq_none]
    intro other hother hconcerns
    exact hnone other hother (Grant.concerns_iff.2 hconcerns)
  rw [findGrant, grantTable_eq_ok_iff.2 hgrants, accountTable_eq_ok_iff.2 haccounts]
  simp only [bind, Except.bind, hfind]

theorem Stored.grant_eq (h : ledger.Stored owner username row) :
    ledger.grant owner.kind owner.key username = row.held owner.kind := by
  rw [grant, stored_iff.1 h]
  rfl

theorem Decides.levelOn_eq {default : Level} {owner : Option Owner}
    {outcome : Except Error Level} (h : ledger.Decides default username owner outcome) :
    ledger.levelOn default owner username = outcome := by
  cases h with
  | unowned => rfl
  | @ungranted owner hnone =>
      rw [levelOn, grant, hnone.findGrant_eq]
      cases owner.kind <;> rfl
  | granted hrow hlevel =>
      rw [levelOn, hrow.grant_eq, Grant.held, hlevel, Level.ofName_name]
      rfl
  | spoiled hrow hlevel =>
      rw [levelOn, hrow.grant_eq, Grant.held, Level.ofName_eq_error hlevel]
      rfl
  | noGrants htable =>
      rw [levelOn, grant, findGrant, grantTable, htable]
      rfl
  | noAccounts hgrants htable =>
      rw [levelOn, grant, findGrant, grantTable_eq_ok_iff.2 hgrants, accountTable, htable]
      rfl

/-- There is always a level, or a reason why not. -/
theorem exists_decides (ledger : Ledger) (default : Level) (username : String)
    (owner : Option Owner) : ∃ outcome, ledger.Decides default username owner outcome := by
  cases owner with
  | none => exact ⟨_, .unowned⟩
  | some owner =>
      cases hgrants : ledger.grants? owner.kind with
      | none => exact ⟨_, .noGrants hgrants⟩
      | some grants =>
          cases haccounts : ledger.accounts with
          | none => exact ⟨_, .noAccounts hgrants haccounts⟩
          | some accounts =>
              cases hfind : ledger.findGrant owner.kind owner.key username with
              | error e =>
                  refine ⟨_, .ungranted ⟨grants, accounts, hgrants, haccounts, ?_⟩⟩
                  intro row hrow hconcerns
                  -- A row that concerns the user would have been found.
                  rw [findGrant, grantTable_eq_ok_iff.2 hgrants,
                    accountTable_eq_ok_iff.2 haccounts] at hfind
                  have hsome : (grants.rows.find? fun grant => grant.key = owner.key &&
                      belongs accounts.rows username grant).isSome := by
                    rw [List.find?_isSome]
                    exact ⟨row, hrow, Grant.concerns_iff.1 hconcerns⟩
                  rcases Option.isSome_iff_exists.1 hsome with ⟨found, hfound⟩
                  simp only [bind, Except.bind, hfound] at hfind
                  cases hfind
              | ok row =>
                  have hstored := stored_iff.2 hfind
                  -- The row may hold a level that is none, for the table does not check it.
                  by_cases hlevel : ∃ level : Level, row.level = level.name
                  · rcases hlevel with ⟨level, hlevel⟩
                    exact ⟨_, .granted hstored hlevel⟩
                  · rw [not_exists] at hlevel
                    exact ⟨_, .spoiled hstored hlevel⟩

/-- The level that is found is the one that decides. -/
theorem levelOn_iff {default : Level} {owner : Option Owner} {outcome : Except Error Level} :
    ledger.levelOn default owner username = outcome ↔
      ledger.Decides default username owner outcome := by
  constructor
  · rintro rfl
    rcases exists_decides ledger default username owner with ⟨outcome, h⟩
    rw [h.levelOn_eq]
    exact h
  · exact Decides.levelOn_eq

/-- A user has one grant on an owner at most, if the unique indexes hold. -/
theorem stored_of_mem (hindexed : ledger.Indexed) {grants : Table Grant} {accounts : Table Account}
    (hgrants : ledger.grants? owner.kind = some grants) (haccounts : ledger.accounts = some accounts)
    (hmem : row ∈ grants.rows) (hrow : row.Concerns accounts.rows owner username) :
    ledger.Stored owner username row := by
  rcases hindexed.accounts with ⟨table, htable, hnames⟩
  obtain rfl := Option.some.inj (haccounts.symm.trans htable)
  rcases hindexed.grants owner.kind with ⟨rows, hrows, hdistinct, -⟩
  obtain rfl := Option.some.inj (hgrants.symm.trans hrows)
  rcases List.append_of_mem hmem with ⟨before, behind, hsplit⟩
  refine ⟨grants, accounts, before, behind, hgrants, haccounts, hsplit, hrow, ?_⟩
  intro other hother hconcerns
  -- Both are held by the one user of the name, and on one key.
  have hholder := holder_eq_of_belongs hnames
    (Bool.and_eq_true_iff.1 (Grant.concerns_iff.1 hconcerns)).2
    (Bool.and_eq_true_iff.1 (Grant.concerns_iff.1 hrow)).2
  rw [hsplit, List.pairwise_append] at hdistinct
  exact hdistinct.2.2 other hother row List.mem_cons_self
    ⟨hconcerns.1.trans hrow.1.symm, hholder⟩

end Ledger

namespace Subject

variable {tracker : Tracker σ} {default : Level} {subject : Subject} {params : Params}
  {username : String} {world : World σ}

theorem Resolves.exec_eq {outcome : Except Error Level} {after : World σ}
    (h : subject.Resolves tracker default params username world outcome after) :
    exec (subject.level tracker default params username) world = (outcome, after) := by
  cases h with
  | @lost e remote howner =>
      have hremote : exec (onRemote (subject.owner tracker params)) world =
          (.error e, ⟨world.ledger, remote⟩) := by
        rw [exec_onRemote, howner.exec_eq]
      rw [level, exec_bind_error hremote]
  | decided howner hlevel => rw [exec_level howner.exec_eq, hlevel.levelOn_eq]

theorem exists_resolves (tracker : Tracker σ) (default : Level) (subject : Subject)
    (params : Params) (username : String) (world : World σ) :
    ∃ outcome after, subject.Resolves tracker default params username world outcome after := by
  rcases exists_belongs tracker params subject world.remote with ⟨e | owner, remote, howner⟩
  · exact ⟨_, _, .lost howner⟩
  · rcases world.ledger.exists_decides default username owner with ⟨outcome, hlevel⟩
    exact ⟨_, _, .decided howner hlevel⟩

/-- The level on what a request is about is that of the user's grant on its owner, and the default
exactly where it has no owner or there is no such grant. What belongs to an experiment has the level
of that experiment, as if it were asked for by its id. All else is an error: a name that is missing,
whatever the tracker fails with, a name of no experiment, a table that is missing and a level that
is none. -/
theorem resolved (tracker : Tracker σ) (default : Level) (subject : Subject) (params : Params)
    (username : String) (world : World σ) :
    (∀ outcome after,
      exec (subject.level tracker default params username) world = (outcome, after) ↔
        subject.Resolves tracker default params username world outcome after) ∧
    (∀ id remote,
      subject.Belongs tracker params world.remote (.ok (some ⟨.experiment, id⟩)) remote →
      ∀ direct : Params, direct.get? "experiment_id" = some id →
        (exec (subject.level tracker default params username) world).1 =
          (exec (experimentId.level tracker default direct username) world).1) ∧
    (world.ledger.Indexed → ∀ owner grants accounts row,
      world.ledger.grants? owner.kind = some grants → world.ledger.accounts = some accounts →
      row ∈ grants.rows → row.Concerns accounts.rows owner username →
        world.ledger.Stored owner username row) := by
  refine ⟨?_, ?_, ?_⟩
  · intro outcome after
    constructor
    · intro h
      rcases exists_resolves tracker default subject params username world with
        ⟨found, last, hresolves⟩
      obtain ⟨rfl, rfl⟩ := Prod.mk.inj (h.symm.trans hresolves.exec_eq)
      exact hresolves
    · exact Resolves.exec_eq
  · intro id remote howner direct hdirect
    -- Asked for by its id, the experiment is its own owner.
    have hitself : experimentId.Belongs tracker direct world.remote
        (.ok (some ⟨.experiment, id⟩)) world.remote := .itself .experiment hdirect
    rw [exec_level howner.exec_eq, exec_level hitself.exec_eq]
  · intro hindexed owner grants accounts row hgrants haccounts
    exact Ledger.stored_of_mem hindexed hgrants haccounts

/-- A user who may read an experiment with one run. -/
def archive : World Memory :=
  ⟨⟨some ⟨[⟨1, "ada", .password "secret", false⟩], 1⟩, some ⟨[⟨1, "7", 1, "READ"⟩], 1⟩,
    some .empty⟩, ⟨⟨[("7", "first")], [("r", "7")], [], []⟩, 0⟩⟩

/-- The run is read as its experiment is; a run that does not exist is an error, whatever the
default. -/
theorem resolved_run :
    exec (runId.level Memory.tracker .manage ⟨[("run_uuid", .string "r")]⟩ "ada") archive =
      (.ok .read, archive) ∧
    exec (runId.level Memory.tracker .manage ⟨[("run_uuid", .string "ghost")]⟩ "ada") archive =
      (.error (.absent (.run "ghost")), archive) := by
  constructor
  · have hrow : archive.ledger.Stored ⟨.experiment, "7"⟩ "ada" ⟨1, "7", 1, "READ"⟩ :=
      ⟨_, _, [], [], rfl, rfl, rfl, ⟨rfl, _, List.mem_cons_self, rfl, rfl⟩, fun _ h => nomatch h⟩
    exact ((resolved _ _ _ _ _ _).1 _ _).2 (.decided (.reported rfl rfl rfl) (.granted hrow rfl))
  · exact ((resolved _ _ _ _ _ _).1 _ _).2 (.lost (.failed rfl rfl rfl))

end Subject

end Gatehouse

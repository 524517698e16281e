import Gatehouse.Proofs.Ledger.Shows

/-!
# The ledger keeps the book

Each call on a ledger that shows a book tells what the call on the book tells, or fails with the
same failure, and leaves a ledger that shows the book that is left. From a fresh start that holds
of any calls in turn. The ids by which the tables are tied together are not seen in any answer,
except that a grant is told with the id of its holder, which stands for his name here.

## Main definitions

* `Ledger.Call.perform`: A call on a ledger, with what it tells.
* `Ledger.Agree`: The same outcome on a ledger and on a book.

## Theorems

* `Ledger.createUser_agrees`, `Ledger.updateUser_agrees`, `Ledger.deleteUser_agrees`,
  `Ledger.createAdmin_agrees`: Calls on users.
* `Ledger.createGrant_agrees`, `Ledger.updateGrant_agrees`, `Ledger.deleteGrant_agrees`,
  `Ledger.dropModelGrants_agrees`, `Ledger.renameModelGrants_agrees`: Calls on grants.
* `Ledger.Call.agrees`, `Ledger.replay_agrees`: Any call, and any number of them.
* `Ledger.keeps_book`: The ledger answers as three finite maps do.
-/

namespace Gatehouse

open Book (Told)

namespace Ledger

open Statement

/-- A statement with what it tells, read in the ledger that it leaves. -/
def telling {α : Type} (statement : Statement α) (tell : Ledger → α → Told) : Statement Told :=
  fun ledger => (statement ledger).map fun result => (tell result.2 result.1, result.2)

/-- A call on the ledger, with what it tells. -/
def Call.perform : Call → Statement Told
  | createUser username password admin =>
    telling (Ledger.createUser username password admin) fun _ account =>
      .user account.username account.admin
  | hasUser username => telling (look (Ledger.hasUser username)) fun _ => .flag
  | getUser username => telling (look (findAccount username)) fun _ account =>
      .user account.username account.admin
  | getDetails username => telling (look (details username)) fun ledger details =>
      .details details.account.username details.account.admin
        (details.experimentGrants.map ledger.named) (details.modelGrants.map ledger.named)
  | authenticate username password =>
    telling (look (Ledger.authenticate username password)) fun _ => .flag
  | updateUser username password admin =>
    telling (Ledger.updateUser username password admin) fun _ _ => .nothing
  | deleteUser username => telling (Ledger.deleteUser username) fun _ _ => .nothing
  | createAdmin username password =>
    telling (Ledger.createAdmin username password) fun _ _ => .nothing
  | createGrant kind key username level =>
    telling (Ledger.createGrant kind key username level) fun ledger held =>
      .grant (ledger.named held)
  | getGrant kind key username => telling (look (grant kind key username)) fun ledger held =>
      .grant (ledger.named held)
  | listGrants kind username => telling (look (grantsOf kind username)) fun ledger grants =>
      .grants (grants.map ledger.named)
  | updateGrant kind key username level =>
    telling (Ledger.updateGrant kind key username level) fun _ _ => .nothing
  | deleteGrant kind key username =>
    telling (Ledger.deleteGrant kind key username) fun _ _ => .nothing
  | dropModelGrants name => telling (Ledger.dropModelGrants name) fun _ => .count
  | renameModelGrants old new => telling (Ledger.renameModelGrants old new) fun _ => .count

theorem after_telling {α : Type} (statement : Statement α) (tell : Ledger → α → Told)
    (ledger : Ledger) : (telling statement tell).after ledger = statement.after ledger := by
  unfold after telling
  cases statement ledger <;> rfl

/-- What a call tells is beside what it does. -/
theorem Call.after_perform (call : Call) (ledger : Ledger) :
    call.perform.after ledger = call.after ledger := by
  cases call <;> simp only [perform, Call.after, after_telling]

/-- The outcome of a call on the ledger and on the book: the same failure, or the same answer with
a ledger that shows the book. -/
inductive Agree : Except Error (Told × Ledger) → Except Error (Told × Book) → Prop where
  | failed (e : Error) : Agree (.error e) (.error e)
  | succeeded (told : Told) {ledger : Ledger} {book : Book} (h : Shows ledger book) :
    Agree (.ok (told, ledger)) (.ok (told, book))

namespace Agree

variable {α : Type} {statement : Statement α} {tell : Ledger → α → Told} {ledger changed : Ledger}
  {book next : Book} {outcome : Except Error (Told × Book)}

theorem of_error {e : Error} (h : statement ledger = .error e) (hbook : outcome = .error e) :
    Agree (telling statement tell ledger) outcome := by
  rw [telling, h, hbook]
  exact .failed e

theorem of_ok {a : α} (h : statement ledger = .ok (a, changed))
    (hbook : outcome = .ok (tell changed a, next)) (hshows : Shows changed next) :
    Agree (telling statement tell ledger) outcome := by
  rw [telling, h, hbook]
  exact .succeeded _ hshows

/-- A call that only looks leaves a ledger that still shows the book. -/
theorem of_look (hshows : Shows ledger book) {f : Ledger → Except Error α}
    (hbook : outcome = (f ledger).map fun a => (tell ledger a, book)) :
    Agree (telling (look f) tell ledger) outcome := by
  cases h : f ledger with
  | error e =>
      rw [h] at hbook
      exact of_error (by rw [look, h]; rfl) hbook
  | ok a =>
      rw [h] at hbook
      exact of_ok (by rw [look, h]; rfl) hbook hshows

end Agree

section Users

variable {ledger : Ledger} {book : Book}

theorem createUser_agrees (h : Shows ledger book) (username password : String) (admin : Bool) :
    Agree ((Call.createUser username password admin).perform ledger)
      (book.createUser username password admin) := by
  obtain ⟨accounts, haccounts, -, -⟩ := h.sound
  have heq := createUser_eq username password admin ledger
  rw [accountTable_eq_ok_iff.2 haccounts] at heq
  rw [Call.perform, Book.createUser]
  by_cases hempty : (username.isEmpty || password.isEmpty) = true
  · rw [if_pos hempty] at heq ⊢
    exact .of_error heq rfl
  rw [if_neg hempty] at heq ⊢
  -- A name is taken in the book where a row has it.
  have htaken : book.users.get? username = none ↔
      ¬ accounts.rows.any (·.username = username) = true := by
    rw [h.get?_users haccounts, Option.map_eq_none_iff, List.find?_eq_none]
    simp
  change _ = ite _ _ _ at heq
  by_cases hfree : book.users.get? username = none
  · rw [if_neg (htaken.1 hfree)] at heq
    rw [dif_pos hfree]
    have hsound := (createUser_advances h.sound heq).sound
    -- The new row comes last, as the new entry does, and no row that was there changes.
    refine .of_ok heq rfl (h.withAccounts haccounts hsound ?_ ?_ ?_)
    · change List.map _ (accounts.rows ++ [_]) = book.users.entries ++ [_]
      rw [List.map_append, h.users accounts haccounts]
      rfl
    · intro account haccount
      rcases List.mem_append.1 haccount with hold | hnew
      · exact h.passwords accounts haccounts account hold
      · rw [List.mem_singleton.1 hnew]
        rfl
    · intro account haccount
      exact ⟨account, List.mem_append_left _ haccount, rfl, rfl⟩
  · rw [if_pos (by rwa [htaken, not_not] at hfree)] at heq
    rw [dif_neg hfree]
    exact .of_error heq rfl

theorem updateUser_agrees (h : Shows ledger book) (username : String) (password : Option String)
    (admin : Option Bool) :
    Agree ((Call.updateUser username password admin).perform ledger)
      (book.updateUser username password admin) := by
  obtain ⟨accounts, haccounts, hsound, -⟩ := h.sound
  have heq := updateUser_eq username ledger password admin
  rw [accountTable_eq_ok_iff.2 haccounts] at heq
  rw [Call.perform, Book.updateUser, h.find]
  cases hfound : ledger.findAccount username with
  | error e =>
      rw [hfound] at heq
      exact .of_error heq rfl
  | ok found =>
      rw [hfound] at heq
      change _ = ite _ _ _ at heq
      change Agree _ (ite _ _ _)
      by_cases hempty : password = some ""
      · rw [if_pos hempty] at heq ⊢
        exact .of_error heq rfl
      rw [if_neg hempty] at heq ⊢
      -- The ledger changes the row that has the id that was found, the book the entry of the name.
      obtain ⟨hmem, hname⟩ := mem_of_findAccount haccounts hfound
      refine .of_ok heq rfl
        (h.withAccounts haccounts (updateUser_advances h.sound heq).sound ?_ ?_ ?_)
      · -- The row of the id is the entry of the name.
        change List.map _ (accounts.rows.map _) = book.users.entries.map _
        rw [← h.users accounts haccounts, List.map_map, List.map_map]
        refine List.map_congr_left ?_
        intro row hrow
        have hrows : row.id = found.id ↔ row.username = username := by
          rw [hsound.id_eq_iff hrow hmem, hname]
        simp only [Function.comp_apply, revised]
        by_cases hid : row.id = found.id
        · rw [if_pos hid, if_pos (hrows.1 hid)]
          cases password <;> rfl
        · rw [if_neg hid, if_neg (fun hsame => hid (hrows.2 hsame))]
      · -- A row has the new password where one was given, and else the one that it had.
        intro account haccount
        obtain ⟨row, hrow, rfl⟩ := List.mem_map.1 haccount
        have hpassword := h.passwords accounts haccounts row hrow
        unfold revised
        split
        · cases password with
          | none => exact hpassword
          | some text => rfl
        · exact hpassword
      · -- Ids and names are left as they were, so the grants stay with their holders.
        intro account haccount
        exact ⟨_, List.mem_map_of_mem haccount, revised_id _ _ _ account,
          revised_username _ _ _ account⟩

/-- With a user go the entries under his name. -/
theorem deleteUser_agrees (h : Shows ledger book) (username : String) :
    Agree ((Call.deleteUser username).perform ledger) (book.deleteUser username) := by
  obtain ⟨accounts, haccounts, hsound, hall⟩ := h.sound
  obtain ⟨experiments, hexperiments, -⟩ := hall .experiment
  obtain ⟨models, hmodels, -⟩ := hall .model
  have heq := deleteUser_eq username ledger
  rw [accountTable_eq_ok_iff.2 haccounts, grantTable_eq_ok_iff.2 hexperiments,
    grantTable_eq_ok_iff.2 hmodels] at heq
  rw [Call.perform, Book.deleteUser, h.find]
  cases hfound : ledger.findAccount username with
  | error e =>
      rw [hfound] at heq
      exact .of_error heq rfl
  | ok found =>
      rw [hfound] at heq
      obtain ⟨hmem, rfl⟩ := mem_of_findAccount haccounts hfound
      have hafter := (deleteUser_advances h.sound heq).sound
      refine .of_ok heq rfl ⟨hafter, ?_, ?_, ?_⟩
      · intro rows hrows
        obtain rfl := Option.some.inj hrows
        -- The row of an id is the only one of its name, so the rows that stay are the entries that
        -- stay.
        have hstay : (accounts.rows.filter fun account => !decide (account.id = found.id)) =
            accounts.rows.filter ((fun entry : String × Book.User =>
              !decide (entry.1 = found.username)) ∘
                fun account => (account.username, account.user)) := by
          refine List.filter_congr ?_
          intro account haccount
          exact congrArg _ (decide_eq_decide.2 (hsound.id_eq_iff haccount hmem))
        change List.map _ (accounts.rows.filter _) = List.filter _ book.users.entries
        rw [← h.users accounts haccounts, List.filter_map, hstay]
      · -- Whoever stays was there before, with the same password.
        intro rows hrows account haccount
        obtain rfl := Option.some.inj hrows
        exact h.passwords accounts haccounts account (List.mem_filter.1 haccount).1
      · -- The grants of both kinds go with their holder.
        intro rows kind grants hrows hgrants
        obtain rfl := Option.some.inj hrows
        cases kind with
        | experiment =>
            obtain rfl := Option.some.inj hgrants
            exact h.entries_departed haccounts hexperiments hmem (hafter.accountsSound rfl)
        | model =>
            obtain rfl := Option.some.inj hgrants
            exact h.entries_departed haccounts hmodels hmem (hafter.accountsSound rfl)

/-- Whether a user exists is whether he is in the book. -/
theorem Shows.hasUser (h : Shows ledger book) (username : String) :
    ledger.hasUser username = .ok (book.users.get? username).isSome := by
  obtain ⟨accounts, haccounts, -, -⟩ := h.sound
  rw [hasUser_eq haccounts, h.get?_users haccounts, Option.isSome_map, List.isSome_find?]

theorem createAdmin_agrees (h : Shows ledger book) (username password : String) :
    Agree ((Call.createAdmin username password).perform ledger)
      (book.createAdmin username password) := by
  have heq := createAdmin_eq username password ledger
  rw [h.hasUser] at heq
  change _ = ite _ _ _ at heq
  rw [Call.perform, Book.createAdmin]
  by_cases hknown : (book.users.get? username).isSome = true
  · rw [if_pos hknown] at heq ⊢
    exact .of_ok heq rfl h
  rw [if_neg hknown] at heq ⊢
  -- Nobody has the name, so entering the administrator is entering any user.
  have hcreated := createUser_agrees h username password true
  rw [enterAdmin] at heq
  rw [Call.perform, telling] at hcreated
  cases hresult : createUser username password true ledger with
  | ok result =>
      rw [hresult] at heq hcreated
      generalize book.createUser username password true = outcome at hcreated ⊢
      cases hcreated with
      | succeeded _ hshows => exact .of_ok heq rfl hshows
  | error e =>
      rw [hresult] at heq hcreated
      cases houtcome : book.createUser username password true with
      | ok _ =>
          rw [houtcome] at hcreated
          cases hcreated
      | error e' =>
          rw [houtcome] at hcreated
          cases hcreated with
          | failed =>
              -- The name is free, so only empty credentials are left as a reason.
              have hempty : e = .badRequest .emptyCredentials := by
                rw [Book.createUser] at houtcome
                split at houtcome
                · exact (Except.error.inj houtcome).symm
                · rw [dif_pos (by simpa using hknown)] at houtcome
                  cases houtcome
              rw [hempty] at heq ⊢
              exact .of_error heq rfl

end Users

section Grants

variable {ledger : Ledger} {book : Book} {accounts : Table Account} {grants : Table Grant}
  {kind : Kind}

theorem createGrant_agrees (h : Shows ledger book) (kind : Kind)
    (key username levelName : String) :
    Agree ((Call.createGrant kind key username levelName).perform ledger)
      (book.createGrant kind key username levelName) := by
  obtain ⟨accounts, haccounts, hsound, hall⟩ := h.sound
  obtain ⟨grants, hgrants, hkind⟩ := hall kind
  have heq := createGrant_eq kind key username levelName ledger
  rw [grantTable_eq_ok_iff.2 hgrants] at heq
  rw [Call.perform, Book.createGrant, h.find]
  -- Both refuse a level that is not known before they look for the user.
  cases hlevel : Level.ofName levelName with
  | error e =>
      rw [hlevel] at heq
      exact .of_error heq rfl
  | ok level =>
      rw [hlevel] at heq
      cases hfound : ledger.findAccount username with
      | error e =>
          rw [hfound] at heq
          exact .of_error heq rfl
      | ok account =>
          rw [hfound] at heq
          change _ = ite _ _ _ at heq
          change Agree _ (dite _ _ _)
          obtain ⟨hmem, rfl⟩ := mem_of_findAccount haccounts hfound
          have hname := hsound.nameIn_eq hmem
          -- The key is taken for the id in the table exactly if it is taken for the name in the
          -- book.
          have hclash := h.free_iff haccounts hgrants hmem key level.name
          by_cases hfree : (book.grants kind).get? (key, account.username) = none
          · rw [if_neg (hclash.1 hfree)] at heq
            rw [dif_pos hfree]
            have hname := hsound.nameIn_eq hmem
            -- The row holds the id of the user, and what is told of it his name.
            have htold : (ledger.withGrants kind
                (grants.add (⟨·, key, account.id, level.name⟩))).named
                  ⟨kind, key, account.id, level⟩ = ⟨kind, key, account.username, level⟩ := by
              simp only [named, nameOf, accounts_withGrants, haccounts, Option.elim_some, hname]
            rw [← htold]
            refine .of_ok heq rfl
              (h.withGrants haccounts (createGrant_advances h.sound heq).sound ?_)
            change List.map _ (grants.rows ++ [_]) = (book.grants kind).entries ++ [_]
            rw [List.map_append, h.grants accounts kind grants haccounts hgrants,
              List.map_singleton, Grant.entry, hname, Grant.levelOf_name]
          · rw [if_pos (by rwa [hclash, not_not] at hfree)] at heq
            rw [dif_neg hfree]
            exact .of_error heq rfl

theorem updateGrant_agrees (h : Shows ledger book) (kind : Kind)
    (key username levelName : String) :
    Agree ((Call.updateGrant kind key username levelName).perform ledger)
      (book.updateGrant kind key username levelName) := by
  obtain ⟨accounts, haccounts, -, hall⟩ := h.sound
  obtain ⟨grants, hgrants, -⟩ := hall kind
  have heq := updateGrant_eq kind key username levelName ledger
  rw [grantTable_eq_ok_iff.2 hgrants] at heq
  rw [Call.perform, Book.updateGrant, h.findGrant]
  cases hlevel : Level.ofName levelName with
  | error e =>
      rw [hlevel] at heq
      exact .of_error heq rfl
  | ok level =>
      rw [hlevel] at heq
      cases hfound : ledger.findGrant kind key username with
      | error e =>
          rw [hfound] at heq
          exact .of_error heq rfl
      | ok found =>
          rw [hfound] at heq
          refine .of_ok heq rfl (h.withGrants haccounts (updateGrant_advances h.sound heq).sound ?_)
          -- The row that was found is the one whose entry has the key and the name.
          refine h.entries_map haccounts hgrants ?_
          intro grant hgrant
          have hrows := h.id_eq_found haccounts hgrants hfound hgrant
          unfold relevelled
          by_cases hid : grant.id = found.id
          · rw [if_pos hid, if_pos (hrows.1 hid), Grant.entry, Grant.levelOf_name]
            rfl
          · rw [if_neg hid, if_neg fun hsame => hid (hrows.2 hsame)]

theorem deleteGrant_agrees (h : Shows ledger book) (kind : Kind) (key username : String) :
    Agree ((Call.deleteGrant kind key username).perform ledger)
      (book.deleteGrant kind key username) := by
  obtain ⟨accounts, haccounts, -, hall⟩ := h.sound
  obtain ⟨grants, hgrants, -⟩ := hall kind
  have heq := deleteGrant_eq kind key username ledger
  rw [grantTable_eq_ok_iff.2 hgrants] at heq
  rw [Call.perform, Book.deleteGrant, h.findGrant]
  cases hfound : ledger.findGrant kind key username with
  | error e =>
      rw [hfound] at heq
      exact .of_error heq rfl
  | ok found =>
      rw [hfound] at heq
      refine .of_ok heq rfl (h.withGrants haccounts (deleteGrant_advances h.sound heq).sound ?_)
      -- The row that was found is dropped by its id, which no other row has.
      refine h.entries_drop haccounts hgrants ?_
      intro grant hgrant
      exact decide_eq_decide.2 (h.id_eq_found haccounts hgrants hfound hgrant)

theorem dropModelGrants_agrees (h : Shows ledger book) (name : String) :
    Agree ((Call.dropModelGrants name).perform ledger) (book.dropModelGrants name) := by
  obtain ⟨accounts, haccounts, -, hall⟩ := h.sound
  obtain ⟨grants, hgrants, -⟩ := hall .model
  have heq := dropModelGrants_eq ledger name
  rw [grantTable_eq_ok_iff.2 hgrants] at heq
  rw [Call.perform, Book.dropModelGrants, h.countP_eq haccounts hgrants]
  refine .of_ok heq rfl (h.withGrants haccounts (dropModelGrants_advances h.sound heq).sound ?_)
  exact h.entries_drop haccounts hgrants fun _ _ => rfl

theorem renameModelGrants_agrees (h : Shows ledger book) (old new : String) :
    Agree ((Call.renameModelGrants old new).perform ledger) (book.renameModelGrants old new) := by
  obtain ⟨accounts, haccounts, -, hall⟩ := h.sound
  obtain ⟨grants, hgrants, -⟩ := hall .model
  have heq := renameModelGrants_eq ledger old new
  rw [grantTable_eq_ok_iff.2 hgrants] at heq
  change _ = ite _ _ _ at heq
  have hclash := h.anyClash_iff haccounts hgrants old new
  rw [Call.perform, Book.renameModelGrants, h.countP_eq haccounts hgrants]
  -- Both refuse the new name where somebody would then hold two grants on it.
  by_cases hdoubled : Book.Doubled (book.grants .model) old new
  · rw [if_pos (hclash.2 hdoubled)] at heq
    rw [dif_pos hdoubled]
    exact .of_error heq rfl
  · rw [if_neg fun hboth => hdoubled (hclash.1 hboth)] at heq
    rw [dif_neg hdoubled]
    refine .of_ok heq rfl
      (h.withGrants haccounts (renameModelGrants_advances h.sound heq).sound ?_)
    exact h.entries_map haccounts hgrants fun grant _ => entry_renamed accounts.rows old new grant

end Grants

section Reads

variable {ledger : Ledger} {book : Book}

theorem authenticate_agrees (h : Shows ledger book) (username password : String) :
    Agree ((Call.authenticate username password).perform ledger)
      (Book.perform (.authenticate username password) book) := by
  obtain ⟨accounts, haccounts, -, -⟩ := h.sound
  rw [Call.perform, Book.perform, h.get?_users haccounts]
  refine .of_look h ?_
  rw [Ledger.authenticate]
  -- The password of the entry is that of the first row with the name.
  cases hrow : accounts.rows.find? (·.username = username) with
  | none =>
      have hfind : ledger.findAccount username = .error (.absent (.account username)) := by
        rw [findAccount, accountTable_eq_ok_iff.2 haccounts]
        simp only [bind, Except.bind, hrow]
      rw [hfind]
      rfl
  | some account =>
      have hpassword := h.passwords accounts haccounts account (List.mem_of_find?_eq_some hrow)
      rw [findAccount_eq_ok_iff.2 ⟨accounts, haccounts, hrow⟩]
      simp only [hpassword, Secret.verify?]
      rfl

theorem getDetails_agrees (h : Shows ledger book) (username : String) :
    Agree ((Call.getDetails username).perform ledger)
      (Book.perform (.getDetails username) book) := by
  obtain ⟨accounts, haccounts, -, -⟩ := h.sound
  obtain ⟨experiments, hexperiments, hsame⟩ := h.grantsOf .experiment username
  obtain ⟨models, hmodels, hsame'⟩ := h.grantsOf .model username
  rw [Call.perform, Book.perform, h.find, ← hsame, ← hsame']
  refine .of_look h ?_
  rw [details, hexperiments, hmodels]
  cases hfound : ledger.findAccount username with
  | error e => rfl
  | ok account =>
      obtain ⟨-, rfl⟩ := mem_of_findAccount haccounts hfound
      rfl

theorem getGrant_agrees (h : Shows ledger book) (kind : Kind) (key username : String) :
    Agree ((Call.getGrant kind key username).perform ledger)
      (Book.perform (.getGrant kind key username) book) := by
  obtain ⟨accounts, haccounts, -, hall⟩ := h.sound
  obtain ⟨grants, hgrants, hkind⟩ := hall kind
  rw [Call.perform, Book.perform, h.findGrant]
  refine .of_look h ?_
  rw [grant]
  cases hfound : ledger.findGrant kind key username with
  | error e => rfl
  | ok found =>
      -- What is told has the key and the name that were asked for, for these are in the entry of
      -- the row.
      have hmem := (mem_of_findGrant hgrants hfound).1
      have hentry := (h.id_eq_found haccounts hgrants hfound hmem).1 rfl
      obtain ⟨hkey, hname⟩ := Prod.mk.inj hentry
      have hheld := Grant.held_eq (hkind.levelled found hmem) kind
      change _ = Except.map _ (found.held kind)
      rw [hheld]
      simp only [Except.map, named, nameOf, haccounts, Option.elim_some, hkey, hname]

/-- One call, whatever it is and whatever comes of it. -/
theorem Call.agrees (h : Shows ledger book) (call : Call) :
    Agree (call.perform ledger) (Book.perform call book) := by
  cases call with
  | createUser username password admin => exact createUser_agrees h username password admin
  | hasUser username =>
      rw [Call.perform, Book.perform]
      exact .of_look h (by rw [h.hasUser]; rfl)
  | getUser username =>
      obtain ⟨accounts, haccounts, -, -⟩ := h.sound
      rw [Call.perform, Book.perform, h.find]
      refine .of_look h ?_
      cases hfound : ledger.findAccount username with
      | error e => rfl
      | ok account =>
          obtain ⟨-, rfl⟩ := mem_of_findAccount haccounts hfound
          rfl
  | getDetails username => exact getDetails_agrees h username
  | authenticate username password => exact authenticate_agrees h username password
  | updateUser username password admin => exact updateUser_agrees h username password admin
  | deleteUser username => exact deleteUser_agrees h username
  | createAdmin username password => exact createAdmin_agrees h username password
  | createGrant kind key username level => exact createGrant_agrees h kind key username level
  | getGrant kind key username => exact getGrant_agrees h kind key username
  | listGrants kind username =>
      obtain ⟨held, htold, hsame⟩ := h.grantsOf kind username
      rw [Call.perform, Book.perform, ← hsame]
      exact .of_look h (by rw [htold]; rfl)
  | updateGrant kind key username level => exact updateGrant_agrees h kind key username level
  | deleteGrant kind key username => exact deleteGrant_agrees h kind key username
  | dropModelGrants name => exact dropModelGrants_agrees h name
  | renameModelGrants old new => exact renameModelGrants_agrees h old new

/-- Any number of calls in turn. -/
theorem replay_agrees (calls : List Call) {ledger : Ledger} {book : Book}
    (h : Shows ledger book) :
    (replay Call.perform calls ledger).1 = (replay Book.perform calls book).1 ∧
      Shows (replay Call.perform calls ledger).2 (replay Book.perform calls book).2 := by
  -- By induction on the calls, from any ledger that shows a book.
  induction calls generalizing ledger book with
  | nil => exact ⟨rfl, h⟩
  | cons call calls ih =>
      have hagree := call.agrees h
      rw [replay, replay]
      generalize call.perform ledger = outcome at hagree ⊢
      generalize Book.perform call book = expected at hagree ⊢
      cases hagree with
      | failed e =>
          obtain ⟨htold, hshows⟩ := ih h
          exact ⟨congrArg (.error e :: ·) htold, hshows⟩
      | succeeded told hnext =>
          obtain ⟨htold, hshows⟩ := ih hnext
          exact ⟨congrArg (.ok told :: ·) htold, hshows⟩

/-- Calls in turn leave what each of them leaves. -/
theorem replay_ledger (calls : List Call) (ledger : Ledger) :
    (replay Call.perform calls ledger).2 =
      calls.foldl (fun ledger call => call.after ledger) ledger := by
  induction calls generalizing ledger with
  | nil => rfl
  | cons call calls ih =>
      rw [replay, List.foldl_cons, ← Call.after_perform, after]
      cases call.perform ledger with
      | ok result => exact ih result.2
      | error e => exact ih ledger

/-- From the start, whatever is called with whatever arguments and in whatever order, a ledger
answers as the book does, with the same failures, and its rows with names for ids are the entries
of the book. A call that fails leaves every table as it was. -/
theorem keeps_book (calls : List Call) :
    (replay Call.perform calls fresh).1 = (replay Book.perform calls .empty).1 ∧
      Shows (calls.foldl (fun ledger call => call.after ledger) fresh)
        (replay Book.perform calls .empty).2 ∧
      ∀ (call : Call) (ledger : Ledger) (e : Error), call.perform ledger = .error e →
        call.after ledger = ledger := by
  obtain ⟨htold, hshows⟩ := replay_agrees calls shows_fresh
  refine ⟨htold, ?_, ?_⟩
  · rw [← replay_ledger]
    exact hshows
  · intro call ledger e hfailed
    rw [← Call.after_perform, after, hfailed]

/-- A user who is granted a level twice, goes, and comes back. -/
def comings : List Call :=
  [.createUser "ada" "first" false, .createGrant .experiment "7" "ada" "READ",
    .createGrant .experiment "7" "ada" "EDIT", .deleteUser "ada",
    .createUser "ada" "second" false, .getGrant .experiment "7" "ada"]

/-- The second grant is one too many, and whoever comes back holds none. -/
theorem keeps_book_comings :
    (replay Call.perform comings fresh).1 =
        [.ok (.user "ada" false), .ok (.grant ⟨.experiment, "7", "ada", .read⟩),
          .error (.conflict (.experimentGrant "7" "ada")), .ok .nothing, .ok (.user "ada" false),
          .error (.absent (.experimentGrant "7" "ada"))] ∧
      (Call.getGrant .experiment "7" "ada").after fresh = fresh :=
  ⟨(keeps_book comings).1.trans rfl,
    (keeps_book comings).2.2 (.getGrant .experiment "7" "ada") fresh
      (.absent (.experimentGrant "7" "ada")) rfl⟩

end Reads

end Ledger

end Gatehouse

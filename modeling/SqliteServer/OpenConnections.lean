import Mathlib.Data.List.Nodup
import SqliteServer.RecordedBackend

/-! Every connection to a database is closed exactly once and used only before, and those that are
open are those in the caches of the sessions.
-/

namespace SqliteServer

open Json Files Runs

-----------------------------------------------------------------------------------------
-- Accounts
-----------------------------------------------------------------------------------------

/-- How many connections were opened, those that are open, those that were closed, and how often one
that is not open was used or closed.
-/
structure Accounts where
  given : Nat
  opened : List Nat
  closed : List Nat
  faults : Nat

namespace Accounts

def empty : Accounts := ⟨0, [], [], 0⟩

section Operations

variable (accounts : Accounts) (id : Nat)

def use : Accounts :=
  if id ∈ accounts.opened then accounts else { accounts with faults := accounts.faults + 1 }

/-- The next connection is opened. -/
def opening : Accounts :=
  { accounts with given := accounts.given + 1, opened := accounts.given :: accounts.opened }

def close : Accounts :=
  { accounts.use id with opened := accounts.opened.erase id, closed := id :: accounts.closed }

end Operations

/-- Nothing was used or closed that was not open, and every connection given is open or was closed
once.
-/
structure Balanced (accounts : Accounts) : Prop where
  faultless : accounts.faults = 0
  each : (accounts.closed ++ accounts.opened).Perm (List.range accounts.given)

variable {accounts : Accounts} {id : Nat}

theorem balanced_empty : empty.Balanced := ⟨rfl, List.Perm.refl _⟩

theorem use_open (open' : id ∈ accounts.opened) : accounts.use id = accounts := if_pos open'

theorem close_open (open' : id ∈ accounts.opened)
    : accounts.close id
      = { accounts with opened := accounts.opened.erase id, closed := id :: accounts.closed } := by
  rw [close, use_open open']

namespace Balanced

theorem nodup_opened (balanced : accounts.Balanced) : accounts.opened.Nodup :=
  (List.nodup_append.mp (balanced.each.nodup_iff.mpr List.nodup_range)).2.1

theorem lt_given (balanced : accounts.Balanced) (open' : id ∈ accounts.opened)
    : id < accounts.given :=
  List.mem_range.mp (balanced.each.mem_iff.mp (List.mem_append_right _ open'))

theorem opening (balanced : accounts.Balanced) : accounts.opening.Balanced := by
  refine ⟨balanced.faultless, ?_⟩
  have moved
      : (accounts.closed ++ accounts.given :: accounts.opened).Perm
          (accounts.given :: (accounts.closed ++ accounts.opened)) :=
    List.perm_middle
  rw [Accounts.opening, List.range_succ]
  exact moved.trans ((balanced.each.cons _).trans (List.perm_append_singleton _ _).symm)

theorem close (balanced : accounts.Balanced) (open' : id ∈ accounts.opened)
    : (accounts.close id).Balanced := by
  rw [close_open open']
  have moved
      : (id :: accounts.closed ++ accounts.opened.erase id).Perm
          (accounts.closed ++ id :: accounts.opened.erase id) :=
    List.perm_middle.symm
  have back := (List.perm_cons_erase open').symm.append_left accounts.closed
  exact ⟨balanced.faultless, moved.trans (back.trans balanced.each)⟩

/-- Closing different connections that are open leaves the others open: by induction on them. -/
theorem closeList (balanced : accounts.Balanced) {ids : List Nat} (distinct : ids.Nodup)
    (open' : ∀ id ∈ ids, id ∈ accounts.opened)
    : (ids.foldl Accounts.close accounts).Balanced
      ∧ ∀ id,
          id ∈ (ids.foldl Accounts.close accounts).opened
          ↔ id ∈ accounts.opened ∧ id ∉ ids := by
  induction ids generalizing accounts with
  | nil => exact ⟨balanced, by simp⟩
  | cons first rest ih =>
      obtain ⟨notLater, distinct⟩ := List.nodup_cons.mp distinct
      have here : first ∈ accounts.opened := open' first List.mem_cons_self
      have left (id : Nat)
          : id ∈ (accounts.close first).opened ↔ id ≠ first ∧ id ∈ accounts.opened := by
        rw [close_open here]
        exact balanced.nodup_opened.mem_erase_iff
      have still (id : Nat) (member : id ∈ rest) : id ∈ (accounts.close first).opened := by
        refine (left id).mpr ⟨?_, open' id (List.mem_cons_of_mem _ member)⟩
        intro same
        exact notLater (same ▸ member)
      obtain ⟨balanced', others⟩ := ih (balanced.close here) distinct still
      refine ⟨balanced', fun id => ?_⟩
      rw [List.foldl_cons, others, left, List.mem_cons]
      tauto

end Balanced

end Accounts

/-- A world with the accounts of its connections. -/
structure Ledger (World : Type) where
  world : World
  accounts : Accounts

section Backend

variable {World Conn Stmt : Type} (backend : Backend World Conn Stmt)

/-- A backend that keeps accounts of its connections. -/
def audited : Backend (Ledger World) (Handle Conn) Stmt where
  pathExists ledger path := backend.pathExists ledger.world path
  canonicalize ledger path := backend.canonicalize ledger.world path
  readDir ledger path := backend.readDir ledger.world path
  removeFile ledger path :=
    (backend.removeFile ledger.world path).map (fun world => { ledger with world })
  openConnection ledger path :=
    match backend.openConnection ledger.world path with
    | (.error err, world) => (.error err, { ledger with world })
    | (.ok conn, world) => (.ok ⟨ledger.accounts.given, conn⟩, ⟨world, ledger.accounts.opening⟩)
  executeBatch ledger handle batch :=
    let executed := backend.executeBatch ledger.world handle.conn batch
    (executed.1, ⟨executed.2, ledger.accounts.use handle.id⟩)
  prepare ledger handle sql :=
    let prepared := backend.prepare ledger.world handle.conn sql
    (prepared.1, ⟨prepared.2, ledger.accounts.use handle.id⟩)
  columnNames := backend.columnNames
  query ledger handle stmt :=
    (backend.query ledger.world handle.conn stmt).map
      (fun world => ⟨world, ledger.accounts.use handle.id⟩)
  close ledger handle :=
    ⟨backend.close ledger.world handle.conn, ledger.accounts.close handle.id⟩

theorem audited_columnNames : backend.columnNames = (audited backend).columnNames := rfl

/-- Keeping accounts changes nothing else. -/
def unaudited : BackendMap (audited backend) backend where
  world := Ledger.world
  conn := Handle.conn
  pathExists _ _ := rfl
  canonicalize _ _ := rfl
  readDir _ _ := rfl
  removeFile ledger path := by
    dsimp only [audited]
    cases backend.removeFile ledger.world path <;> rfl
  openConnection ledger path := by
    dsimp only [audited]
    cases backend.openConnection ledger.world path with
    | mk result world => cases result <;> rfl
  executeBatch _ _ _ := rfl
  prepare _ _ _ := rfl
  columnNames := audited_columnNames backend
  query ledger handle stmt := by
    dsimp only [audited]
    rw [Rows.map_map]
    exact (Rows.map_id _).symm
  close _ _ := rfl

variable {backend} {ledger ledger' : Ledger World} {path : String}

theorem audited_unopened {err : RusqliteError}
    (opened : (audited backend).openConnection ledger path = (.error err, ledger'))
    : ledger'.accounts = ledger.accounts := by
  dsimp only [audited] at opened
  cases reached : backend.openConnection ledger.world path with
  | mk result world =>
      rw [reached] at opened
      cases result with
      | error _ =>
          cases opened
          rfl
      | ok _ => cases opened

theorem audited_opened {handle : Handle Conn}
    (opened : (audited backend).openConnection ledger path = (.ok handle, ledger'))
    : handle.id = ledger.accounts.given ∧ ledger'.accounts = ledger.accounts.opening := by
  dsimp only [audited] at opened
  cases reached : backend.openConnection ledger.world path with
  | mk result world =>
      rw [reached] at opened
      cases result with
      | error _ => cases opened
      | ok _ =>
          cases opened
          exact ⟨rfl, rfl⟩

theorem audited_executed {handle : Handle Conn} {batch : String}
    {result : Except RusqliteError Unit}
    (executed : (audited backend).executeBatch ledger handle batch = (result, ledger'))
    : ledger'.accounts = ledger.accounts.use handle.id :=
  (congrArg (fun result => result.2.accounts) executed).symm

end Backend

-----------------------------------------------------------------------------------------
-- Requests
-----------------------------------------------------------------------------------------

section Requests

variable {World Conn Stmt : Type} {backend : Backend World Conn Stmt} {config : Config}

/-- The connections in a cache. -/
def RequestHandler.ids (handler : RequestHandler (Handle Conn)) : List Nat :=
  handler.databases.map (·.2.id)

/-- What a request can do to a cache and the accounts: nothing, or open a connection that is closed
again, or open one that is kept, or close one that was there.
-/
inductive Settles (handler : RequestHandler (Handle Conn)) (accounts : Accounts)
    : RequestHandler (Handle Conn) → Accounts → Prop where
  | unchanged (next : RequestHandler (Handle Conn)) (same : next.databases = handler.databases)
      : Settles handler accounts next accounts
  | gaveUp : Settles handler accounts handler (accounts.opening.close accounts.given)
  | opened (db : String) (conn : Conn) (absent : handler.connection? db = none)
      : Settles handler accounts (handler.insert db ⟨accounts.given, conn⟩) accounts.opening
  | closed (db : String) (handle : Handle Conn) (there : handler.connection? db = some handle)
      : Settles handler accounts (handler.remove db) (accounts.close handle.id)

/-- Using an open connection is no fault, whatever a statement does. -/
theorem runQuery_accounts {db sql : String} {handler next : RequestHandler (Handle Conn)}
    {ledger ledger' : Ledger World} {handle : Handle Conn} (text : trim sql ≠ "")
    (got : getConnection (audited backend) config db handler ledger = (.ok handle, next, ledger'))
    (open' : handle.id ∈ ledger'.accounts.opened)
    : (runQuery (audited backend) config db sql handler ledger).2.1 = next
      ∧ (runQuery (audited backend) config db sql handler ledger).2.2.accounts
        = ledger'.accounts := by
  cases prepared : (audited backend).prepare ledger' handle sql with
  | mk result ledger'' =>
      have used : ledger''.accounts = ledger'.accounts := by
        have kept := congrArg (fun result => result.2.accounts) prepared
        dsimp only [audited] at kept
        rw [← kept, Accounts.use_open open']
      cases result with
      | error err =>
          rw [runQuery_unprepared text got prepared]
          exact ⟨rfl, used⟩
      | ok stmt =>
          rw [runQuery_prepared text got prepared]
          refine ⟨rfl, ?_⟩
          dsimp only
          rw [stepQuery_world]
          have all
              : ((audited backend).query ledger'' handle stmt).AllWorlds
                  (fun ledger => ledger.accounts = ledger'.accounts) := by
            dsimp only [audited]
            rw [used, Accounts.use_open open']
            generalize backend.query ledger''.world handle.conn stmt = steps
            induction steps with
            | done world => rfl
            | failed err world => rfl
            | row cells abandoned rest ih => exact ⟨rfl, ih⟩
          exact collectRows_world all []

theorem RequestHandler.mem_databases {Conn : Type} {handler : RequestHandler Conn} {db : String}
    {conn : Conn} (there : handler.connection? db = some conn)
    : (db, conn) ∈ handler.databases := by
  obtain ⟨before, after', entries, -⟩ := List.lookup_eq_some_iff.mp there
  rw [entries]
  exact List.mem_append_right _ List.mem_cons_self

/-- A connection in a cache is one of its ids. -/
theorem RequestHandler.mem_ids {handler : RequestHandler (Handle Conn)} {db : String}
    {handle : Handle Conn} (there : handler.connection? db = some handle)
    : handle.id ∈ handler.ids :=
  List.mem_map.mpr ⟨(db, handle), mem_databases there, rfl⟩

/-- A query settles: by cases on how it gets its connection. -/
theorem runQuery_settles (db sql : String) (handler : RequestHandler (Handle Conn))
    (ledger : Ledger World) (open' : ∀ id ∈ handler.ids, id ∈ ledger.accounts.opened)
    : Settles handler ledger.accounts
        (runQuery (audited backend) config db sql handler ledger).2.1
        (runQuery (audited backend) config db sql handler ledger).2.2.accounts := by
  by_cases text : trim sql = ""
  · rw [runQuery_empty text]
    exact .unchanged handler rfl
  · have gets := getConnection_cases (audited backend) config db handler ledger
    cases got : getConnection (audited backend) config db handler ledger with
    | mk result rest =>
        obtain ⟨next, ledger'⟩ := rest
        rw [got] at gets
        dsimp only at gets
        cases gets with
        | cached handle there =>
            obtain ⟨cache, accounts⟩ :=
              runQuery_accounts text got (open' _ (RequestHandler.mem_ids there))
            rw [cache, accounts]
            exact .unchanged handler rfl
        | unopened err _ absent opened =>
            rw [runQuery_failed text got, audited_unopened opened]
            exact .unchanged handler rfl
        | untuned handle err ledger₁ ledger₂ absent opened tuned =>
            obtain ⟨named, given⟩ := audited_opened opened
            have there : handle.id ∈ ledger₁.accounts.opened := by
              rw [given, named]
              exact List.mem_cons_self
            have closed
                : ((audited backend).close ledger₂ handle).accounts
                  = ledger.accounts.opening.close ledger.accounts.given := by
              dsimp only [audited]
              rw [audited_executed tuned, Accounts.use_open there, given, named]
            rw [runQuery_failed text got, closed]
            exact .gaveUp
        | kept handle ledger₁ _ absent opened tuned =>
            obtain ⟨named, given⟩ := audited_opened opened
            have there : handle.id ∈ ledger₁.accounts.opened := by
              rw [given, named]
              exact List.mem_cons_self
            have same : ledger'.accounts = ledger.accounts.opening := by
              rw [audited_executed tuned, Accounts.use_open there, given]
            obtain ⟨cache, accounts⟩ := runQuery_accounts text got (by
              rw [same, named]
              exact List.mem_cons_self)
            rw [cache, accounts, same]
            obtain ⟨id, conn⟩ := handle
            obtain rfl : id = ledger.accounts.given := named
            exact .opened db conn absent

/-- A request settles: by cases on its command. -/
theorem handleRequest_settles (serde : SerdeJson) (req : String)
    (handler : RequestHandler (Handle Conn)) (ledger : Ledger World)
    (open' : ∀ id ∈ handler.ids, id ∈ ledger.accounts.opened)
    : Settles handler ledger.accounts
        (handleRequest (audited backend) config serde req handler ledger).2.1
        (handleRequest (audited backend) config serde req handler ledger).2.2.accounts := by
  have other
      (unmatched : ∀ json command,
        requested config serde handler req = some (json, command) → command = .other)
      : Settles handler ledger.accounts
          (handleRequest (audited backend) config serde req handler ledger).2.1
          (handleRequest (audited backend) config serde req handler ledger).2.2.accounts := by
    rcases handleRequest_other (audited backend) unmatched ledger with same | authenticates
    · rw [same]
      exact .unchanged handler rfl
    · rw [authenticates]
      exact .unchanged _ rfl
  cases request : requested config serde handler req with
  | none => exact other (by simp [request])
  | some found =>
      obtain ⟨json, command⟩ := found
      cases command with
      | other =>
          refine other ?_
          intro json' command' same
          exact (Prod.mk.inj (Option.some.inj (request.symm.trans same))).2.symm
      | query db sql =>
          rw [handleRequest_query (audited backend) request]
          split_ifs
          · dsimp only
            exact runQuery_settles db sql handler ledger open'
          · exact .unchanged handler rfl
      | deleteDb db =>
          rw [handleRequest_deleteDb (audited backend) request]
          split_ifs
          · dsimp only [audited]
            cases backend.removeFile ledger.world (join config.databasesFolder db) with
            | none => exact .unchanged handler rfl
            | some world =>
                dsimp only [Option.map_some]
                cases cached : handler.connection? db with
                | none => exact .unchanged handler rfl
                | some handle => exact .closed db handle cached
          · exact .unchanged handler rfl

/-- Ending a session closes what is in its cache, by induction on it. -/
theorem closeAll_accounts (handler : RequestHandler (Handle Conn)) (ledger : Ledger World)
    : (closeAll (audited backend) handler ledger).accounts
      = handler.ids.foldl Accounts.close ledger.accounts := by
  obtain ⟨databases, authenticated⟩ := handler
  unfold closeAll RequestHandler.ids
  dsimp only
  induction databases generalizing ledger with
  | nil => rfl
  | cons entry rest ih => exact ih _

end Requests

-----------------------------------------------------------------------------------------
-- Sessions
-----------------------------------------------------------------------------------------

section Sessions

variable {Conn : Type} {handler next : RequestHandler (Handle Conn)} {accounts accounts' : Accounts}

/-- A cache with different names and different open connections. -/
structure RequestHandler.Holds (handler : RequestHandler (Handle Conn)) (accounts : Accounts)
    : Prop where
  named : (handler.databases.map Prod.fst).Nodup
  distinct : handler.ids.Nodup
  held : ∀ id ∈ handler.ids, id ∈ accounts.opened

/-- The connections of a session are replaced by others, of which the new ones were not open, and
those of other sessions stay open.
-/
structure Exchanges (handler : RequestHandler (Handle Conn)) (accounts : Accounts)
    (next : RequestHandler (Handle Conn)) (accounts' : Accounts)
    : Prop where
  balanced : accounts'.Balanced
  holds : next.Holds accounts'
  fresh : ∀ id ∈ next.ids, id ∈ handler.ids ∨ id ∉ accounts.opened
  opened
    : ∀ id,
        id ∈ accounts'.opened ↔ (id ∈ accounts.opened ∧ id ∉ handler.ids) ∨ id ∈ next.ids

/-- Removing a name from a cache with different names takes its one entry out. -/
theorem RequestHandler.remove_entry {db : String} {handle : Handle Conn}
    (named : (handler.databases.map Prod.fst).Nodup) (there : handler.connection? db = some handle)
    : ∃ before after',
        handler.databases = before ++ (db, handle) :: after'
        ∧ (handler.remove db).databases = before ++ after' := by
  obtain ⟨before, after', entries, absent⟩ := List.lookup_eq_some_iff.mp there
  rw [entries, List.map_append, List.map_cons] at named
  obtain ⟨-, afterwards, -⟩ := List.nodup_append.mp named
  have later : db ∉ after'.map Prod.fst := (List.nodup_cons.mp afterwards).1
  refine ⟨before, after', entries, ?_⟩
  rw [remove, entries]
  dsimp only
  rw [List.filter_append, List.filter_cons, if_neg (by simp),
    List.filter_eq_self.mpr, List.filter_eq_self.mpr]
  · intro entry member
    rw [bne_iff_ne]
    intro same
    exact later (List.mem_map.mpr ⟨entry, member, same⟩)
  · intro entry member
    rw [bne_iff_ne]
    intro same
    exact absurd (absent entry member) (by simp [same])

/-- Whatever a request does, it exchanges connections. -/
theorem Settles.exchanges (settles : Settles handler accounts next accounts')
    (balanced : accounts.Balanced) (holds : handler.Holds accounts)
    : Exchanges handler accounts next accounts' := by
  have unused : accounts.given ∉ accounts.opened := fun open' =>
    Nat.lt_irrefl _ (balanced.lt_given open')
  have first : accounts.given ∈ accounts.opening.opened := List.mem_cons_self
  cases settles with
  | unchanged _ same =>
      have ids : next.ids = handler.ids := by
        rw [RequestHandler.ids, same, RequestHandler.ids]
      refine ⟨balanced, ⟨same ▸ holds.named, ids ▸ holds.distinct, ids ▸ holds.held⟩, ?_, ?_⟩
      · intro id member
        exact Or.inl (ids ▸ member)
      · intro id
        have open' := holds.held id
        rw [ids]
        tauto
  | gaveUp =>
      have opened : (accounts.opening.close accounts.given).opened = accounts.opened := by
        rw [Accounts.close_open first]
        exact List.erase_cons_head _ _
      refine ⟨balanced.opening.close first, ⟨holds.named, holds.distinct, ?_⟩,
        fun id member => Or.inl member, ?_⟩
      · rw [opened]
        exact holds.held
      · intro id
        have open' := holds.held id
        rw [opened]
        tauto
  | opened db conn absent =>
      have name : db ∉ handler.databases.map Prod.fst := by
        intro member
        obtain ⟨entry, there, rfl⟩ := List.mem_map.mp member
        exact absurd (List.lookup_eq_none_iff.mp absent entry there) (by simp)
      have ids
          : (handler.insert db ⟨accounts.given, conn⟩).ids = accounts.given :: handler.ids :=
        rfl
      refine ⟨balanced.opening, ⟨List.nodup_cons.mpr ⟨name, holds.named⟩, ?_, ?_⟩, ?_, ?_⟩
      · rw [ids]
        exact List.nodup_cons.mpr ⟨fun member => unused (holds.held _ member), holds.distinct⟩
      · intro id member
        rw [ids, List.mem_cons] at member
        rcases member with rfl | member
        · exact first
        · exact List.mem_cons_of_mem _ (holds.held id member)
      · intro id member
        rw [ids, List.mem_cons] at member
        rcases member with rfl | member
        · exact Or.inr unused
        · exact Or.inl member
      · intro id
        have open' := holds.held id
        rw [ids, Accounts.opening, List.mem_cons, List.mem_cons]
        tauto
  | closed db handle there =>
      obtain ⟨before, after', entries, left⟩ := RequestHandler.remove_entry holds.named there
      have open' := holds.held handle.id (RequestHandler.mem_ids there)
      have distinct := holds.distinct
      have ids
          : handler.ids = before.map (·.2.id) ++ handle.id :: after'.map (·.2.id) := by
        rw [RequestHandler.ids, entries, List.map_append, List.map_cons]
      have rest
          : (handler.remove db).ids = before.map (·.2.id) ++ after'.map (·.2.id) := by
        rw [RequestHandler.ids, left, List.map_append]
      rw [ids, List.perm_middle.nodup_iff, ← rest, List.nodup_cons] at distinct
      have member (id : Nat)
          : id ∈ (handler.remove db).ids ↔ id ≠ handle.id ∧ id ∈ handler.ids := by
        have gone := distinct.1
        rw [ids, List.mem_append, List.mem_cons, or_left_comm, ← List.mem_append, ← rest]
        constructor
        · intro stays
          exact ⟨fun same => gone (same ▸ stays), Or.inr stays⟩
        · intro ⟨different, either⟩
          exact either.resolve_left different
      have opened (id : Nat)
          : id ∈ (accounts.close handle.id).opened ↔ id ≠ handle.id ∧ id ∈ accounts.opened := by
        rw [Accounts.close_open open']
        exact balanced.nodup_opened.mem_erase_iff
      refine ⟨balanced.close open', ⟨?_, distinct.2, ?_⟩, ?_, ?_⟩
      · exact holds.named.sublist (List.filter_sublist.map Prod.fst)
      · intro id there
        obtain ⟨different, before⟩ := (member id).mp there
        exact (opened id).mpr ⟨different, holds.held id before⟩
      · intro id there
        exact Or.inl ((member id).mp there).2
      · intro id
        have open' := holds.held id
        rw [opened, member]
        by_cases same : id = handle.id
        · subst same
          simp [RequestHandler.mem_ids there]
        · tauto

/-- Ending a session exchanges its connections for none. -/
theorem closeAll_exchanges {World Stmt : Type} {backend : Backend World Conn Stmt}
    {ledger : Ledger World} (balanced : ledger.accounts.Balanced)
    (holds : handler.Holds ledger.accounts)
    : Exchanges handler ledger.accounts .new
        (closeAll (audited backend) handler ledger).accounts := by
  obtain ⟨balanced', opened⟩ := balanced.closeList holds.distinct holds.held
  rw [closeAll_accounts]
  refine ⟨balanced', ⟨List.nodup_nil, List.nodup_nil, ?_⟩, ?_, fun id => ?_⟩
  · exact fun id member => absurd member List.not_mem_nil
  · exact fun id member => absurd member List.not_mem_nil
  · rw [opened]
    exact (or_iff_left List.not_mem_nil).symm

end Sessions

-----------------------------------------------------------------------------------------
-- Servers
-----------------------------------------------------------------------------------------

section Servers

variable {World Conn Stmt : Type} {server : Server (Ledger World) (Handle Conn)}

/-- The accounts are balanced, and what is open is in the cache of exactly one session. -/
structure Server.Settled (server : Server (Ledger World) (Handle Conn)) : Prop where
  balanced : server.world.accounts.Balanced
  holds : ∀ session, (server.sessions session).Holds server.world.accounts
  apart
    : ∀ session other id,
        id ∈ (server.sessions session).ids → id ∈ (server.sessions other).ids → session = other
  cached : ∀ id ∈ server.world.accounts.opened, ∃ session, id ∈ (server.sessions session).ids

/-- A connection is the one a session has open under a name. -/
def Server.Owns (server : Server (Ledger World) (Handle Conn)) (owner : Nat × String) (id : Nat)
    : Prop :=
  ∃ conn, (server.sessions owner.1).connection? owner.2 = some ⟨id, conn⟩

/-- Nothing is used or closed that is not open, what was opened is open or was closed once, and what
is open is in the cache of one session, under one name.
-/
structure Server.Accounted (server : Server (Ledger World) (Handle Conn)) : Prop where
  balanced : server.world.accounts.Balanced
  opened : ∀ id, id ∈ server.world.accounts.opened ↔ ∃ owner, server.Owns owner id
  once : ∀ id owner other, server.Owns owner id → server.Owns other id → owner = other

/-- An exchange in one session leaves those of the others as they are. -/
theorem Server.Settled.exchange (settled : server.Settled) {session : Nat}
    {next : RequestHandler (Handle Conn)} {ledger : Ledger World}
    (exchanges
      : Exchanges (server.sessions session) server.world.accounts next ledger.accounts)
    : (server.setSession session next ledger).Settled := by
  have stays (other : Nat) (different : other ≠ session) (id : Nat)
      (member : id ∈ (server.sessions other).ids)
      : id ∈ ledger.accounts.opened ∧ id ∉ next.ids := by
    have open' := (settled.holds other).held id member
    have elsewhere : id ∉ (server.sessions session).ids := fun here =>
      different (settled.apart other session id member here)
    refine ⟨(exchanges.opened id).mpr (Or.inl ⟨open', elsewhere⟩), fun new => ?_⟩
    rcases exchanges.fresh id new with here | unopened
    · exact elsewhere here
    · exact unopened open'
  refine ⟨exchanges.balanced, fun other => ?_, fun first second id => ?_, fun id open' => ?_⟩
  · by_cases same : other = session
    · rw [same, Server.setSession_self]
      exact exchanges.holds
    · rw [Server.setSession_other _ _ _ _ same]
      have before := settled.holds other
      exact ⟨before.named, before.distinct, fun id member => (stays other same id member).1⟩
  · by_cases mine : first = session
    · by_cases mine' : second = session
      · exact fun _ _ => mine.trans mine'.symm
      · rw [mine, Server.setSession_self, Server.setSession_other _ _ _ _ mine']
        exact fun here there => absurd here (stays second mine' id there).2
    · by_cases mine' : second = session
      · rw [mine', Server.setSession_self, Server.setSession_other _ _ _ _ mine]
        exact fun here there => absurd there (stays first mine id here).2
      · rw [Server.setSession_other _ _ _ _ mine, Server.setSession_other _ _ _ _ mine']
        exact settled.apart first second id
  · rcases (exchanges.opened id).mp open' with ⟨before, elsewhere⟩ | new
    · obtain ⟨other, member⟩ := settled.cached id before
      refine ⟨other, ?_⟩
      have different : other ≠ session := by
        rintro rfl
        exact elsewhere member
      rwa [Server.setSession_other _ _ _ _ different]
    · exact ⟨session, by rwa [Server.setSession_self]⟩

/-- What a cache with different names has is found under its name. -/
theorem RequestHandler.Holds.found {handler : RequestHandler (Handle Conn)} {accounts : Accounts}
    (holds : handler.Holds accounts) {entry : String × Handle Conn}
    (member : entry ∈ handler.databases)
    : handler.connection? entry.1 = some entry.2 := by
  obtain ⟨before, after', entries⟩ := List.mem_iff_append.mp member
  have named := holds.named
  rw [entries, List.map_append, List.map_cons, List.perm_middle.nodup_iff, List.nodup_cons,
    ← List.map_append] at named
  refine List.lookup_eq_some_iff.mpr ⟨before, after', entries, fun other earlier => ?_⟩
  rw [bne_iff_ne]
  intro same
  exact named.1 (List.mem_map.mpr ⟨other, List.mem_append_left _ earlier, same.symm⟩)

/-- The accounts of a settled server are as they should be. -/
theorem Server.Settled.accounted (settled : server.Settled) : server.Accounted := by
  refine ⟨settled.balanced, fun id => ?_, fun id => ?_⟩
  · constructor
    · intro open'
      obtain ⟨session, member⟩ := settled.cached id open'
      obtain ⟨entry, there, rfl⟩ := List.mem_map.mp member
      exact ⟨(session, entry.1), entry.2.conn, (settled.holds session).found there⟩
    · intro ⟨owner, conn, there⟩
      exact (settled.holds owner.1).held id (RequestHandler.mem_ids there)
  · intro ⟨session, db⟩ ⟨other, db'⟩ ⟨conn, here⟩ ⟨conn', there⟩
    obtain rfl := settled.apart session other id (RequestHandler.mem_ids here)
      (RequestHandler.mem_ids there)
    have same := List.inj_on_of_nodup_map (settled.holds session).distinct
      (RequestHandler.mem_databases here) (RequestHandler.mem_databases there) rfl
    exact congrArg (Prod.mk session) (congrArg Prod.fst same)

variable (backend : Backend World Conn Stmt) (config : Config) (serde : SerdeJson)

/-- Events of a server that keeps accounts, of which its environment knows nothing. -/
def ServerEvent.withAccounts (accounts : Accounts) : ServerEvent World → ServerEvent (Ledger World)
  | .request session req => .request session req
  | .disconnect session => .disconnect session
  | .environment world => .environment ⟨world, accounts⟩

/-- An event seen by a server over another backend. -/
def ServerEvent.map {World' : Type} (f : World → World') : ServerEvent World → ServerEvent World'
  | .request session req => .request session req
  | .disconnect session => .disconnect session
  | .environment world => .environment (f world)

/-- A server that keeps accounts of its connections. -/
def auditedStep (server : Server (Ledger World) (Handle Conn)) (event : ServerEvent World)
    : Server (Ledger World) (Handle Conn) × List (Nat × Value) :=
  Server.step (audited backend) config serde server (event.withAccounts server.world.accounts)

variable {backend config serde}

theorem Server.Settled.step (settled : server.Settled) (event : ServerEvent World)
    : (auditedStep backend config serde server event).1.Settled := by
  cases event with
  | request session req =>
      have holds := settled.holds session
      rw [auditedStep, ServerEvent.withAccounts, Server.step]
      dsimp only
      refine settled.exchange (Settles.exchanges ?_ settled.balanced holds)
      exact handleRequest_settles serde req (server.sessions session) server.world holds.held
  | disconnect session =>
      rw [auditedStep, ServerEvent.withAccounts, Server.step]
      exact settled.exchange (closeAll_exchanges settled.balanced (settled.holds session))
  | environment world =>
      exact ⟨settled.balanced, settled.holds, settled.apart, settled.cached⟩

/-- A server over one backend steps like its image over another. -/
theorem BackendMap.step {World' Conn' : Type} {target : Backend World' Conn' Stmt}
    (m : BackendMap backend target) (config : Config) (serde : SerdeJson)
    (server : Server World Conn) (event : ServerEvent World)
    : Server.step target config serde (server.map m.world m.conn) (event.map m.world)
      = ((Server.step backend config serde server event).1.map m.world m.conn,
          (Server.step backend config serde server event).2) := by
  cases event with
  | environment world => rfl
  | disconnect session =>
      rw [ServerEvent.map, Server.step, Server.step, Server.map_setSession]
      dsimp only
      exact congrArg (fun world => (Server.setSession _ session .new world, []))
        (m.closeAll (server.sessions session) server.world)
  | request session req =>
      rw [ServerEvent.map, Server.step, Server.step, Server.map_setSession]
      dsimp only
      exact congrArg
        (fun result => (Server.setSession _ session result.2.1 result.2.2, [(session, result.1)]))
        (m.handleRequest config (server.sessions session) server.world serde req)

/-- Keeping accounts changes no run of a server, and no answer: by induction on the events. -/
theorem audited_run_forget (server : Server (Ledger World) (Handle Conn))
    (events : List (ServerEvent World))
    : after (Server.step backend config serde) (server.map Ledger.world Handle.conn) events
        = (after (auditedStep backend config serde) server events).map Ledger.world Handle.conn
      ∧ outputs (Server.step backend config serde) (server.map Ledger.world Handle.conn) events
        = outputs (auditedStep backend config serde) server events := by
  induction events generalizing server with
  | nil => exact ⟨rfl, rfl⟩
  | cons event rest ih =>
      have one
          : Server.step backend config serde (server.map Ledger.world Handle.conn)
              ((event.withAccounts server.world.accounts).map Ledger.world)
            = ((auditedStep backend config serde server event).1.map Ledger.world Handle.conn,
                (auditedStep backend config serde server event).2) :=
        (unaudited backend).step config serde server (event.withAccounts server.world.accounts)
      have event' : (event.withAccounts server.world.accounts).map Ledger.world = event := by
        cases event <;> rfl
      rw [event'] at one
      have first := congrArg Prod.fst one
      have answer := congrArg Prod.snd one
      obtain ⟨final, answers⟩ := ih (auditedStep backend config serde server event).1
      refine ⟨?_, ?_⟩
      · rw [after, after, ← final]
        exact congrArg (fun server => after _ server rest) first
      · rw [outputs, outputs, ← answers]
        exact congrArg₂ _ answer (congrArg (fun server => outputs _ server rest) first)

variable (backend config serde)

/-- In every run the accounts of the connections are as they should be, and keeping them changes
nothing: every step is an exchange in one session.
-/
theorem connections_accounted (world : World) (events : List (ServerEvent World))
    : (after (auditedStep backend config serde) (.start ⟨world, .empty⟩) events).Accounted
      ∧ after (Server.step backend config serde) (.start world) events
        = (after (auditedStep backend config serde) (.start ⟨world, .empty⟩) events).map
            Ledger.world Handle.conn
      ∧ outputs (Server.step backend config serde) (.start world) events
        = outputs (auditedStep backend config serde) (.start ⟨world, .empty⟩) events := by
  have none' (id : Nat) (P : Prop) (member : id ∈ ([] : List Nat)) : P :=
    absurd member List.not_mem_nil
  have start : (Server.start ⟨world, .empty⟩ : Server (Ledger World) (Handle Conn)).Settled :=
    ⟨Accounts.balanced_empty,
      fun _ => ⟨List.nodup_nil, List.nodup_nil, fun id member => none' id _ member⟩,
      fun _ _ id member => none' id _ member, fun id member => none' id _ member⟩
  have settled
      : (after (auditedStep backend config serde) (.start ⟨world, .empty⟩) events).Settled :=
    after_invariant (I := Server.Settled) (fun _ event kept => kept.step event) start events
  exact ⟨settled.accounted, audited_run_forget (.start ⟨world, .empty⟩) events⟩

end Servers

end SqliteServer

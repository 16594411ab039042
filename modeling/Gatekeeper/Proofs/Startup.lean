import Gatekeeper.Proofs.Handshake.Policy
import Gatekeeper.Proofs.Settings.Offer
import Gatekeeper.Startup

/-!
# `Gatekeeper.Proofs.Startup`: what a start can fail for

The checks of a start stand in a row, and some of them cannot fail any more by the time that
they are made, because the settings were checked before. What can still fail does so before the
address for clients is opened, but for the opening itself.

* `head?_chain_mem_iff`: what accepted settings are therefore never reported for.
* `Fit`, `prepare_cases`: accepted settings make a server just if keys, seed and database are good.
* `exists_start_iff`: when a server starts.
* `Unfit`, `start_opening_of_unfit`: what is refused, whatever the address would have come to.
* `accepted_settings_run`: all that accepted settings promise.
-/

set_option autoImplicit false

namespace Gatekeeper.Startup

open Gatekeeper.Handshake Gatekeeper.Key Gatekeeper.Net

/-! ### Faults that do not come up -/

/-- Whether a part of the server refused its settings, after they were accepted. -/
def Fault.refusesSettings : Fault → Bool
  | missingDatabase | sweeps _ | diagnostics _ => true
  | _ => false

/-- What such a fault is reported as. -/
def unreported : List String :=
  ["invalid reaper configuration", "invalid diagnostic rate limit",
    "postgres configuration missing"]

/-- A text with another beginning is another text. -/
theorem append_ne {start text : String} (h : ¬start.toList <+: text.toList) (rest : String) :
    start ++ rest ≠ text := by
  rintro rfl
  exact h (by rw [String.toList_append]; exact List.prefix_append ..)

/-- What is wrong with settings when they are loaded is reported in other words. -/
theorem head?_chain_settings (fault : Settings.Fault) {wording : String}
    (h : wording ∈ unreported) : fault.chain.head? ≠ some wording := by
  have hparse : ∀ wording ∈ unreported, ¬"parse ".toList <+: wording.toList := by decide
  have hread : ∀ wording ∈ unreported,
      ¬"read WARDEN_BROKER_CONFIG: ".toList <+: wording.toList := by decide
  cases fault with
  | address place | backend place | number place =>
    exact fun heq => append_ne (hparse wording h) place (Option.some.inj heq)
  | unreadable path => exact fun heq => append_ne (hread wording h) path (Option.some.inj heq)
  | missingUrl | malformedFile =>
    -- These wordings are fixed texts, and none of the list.
    rintro heq
    cases heq
    revert h
    decide

/-- The wordings are those of the faults that refuse settings, and of no others. -/
theorem head?_chain_mem_iff (fault : Fault) :
    (∃ wording ∈ unreported, fault.chain.head? = some wording) ↔
      fault.refusesSettings = true := by
  cases fault with
  | settings reason =>
    exact iff_of_false (fun ⟨wording, hmem, heq⟩ => head?_chain_settings reason hmem heq) nofun
  | serverKey | policy | unreachableDatabase =>
    refine iff_of_false ?_ nofun
    rintro ⟨wording, hmem, heq⟩
    cases heq
    revert hmem
    decide
  | missingDatabase => exact iff_of_true ⟨_, by decide, rfl⟩ rfl
  | sweeps reason =>
    cases reason with
    | zeroInterval => exact iff_of_true ⟨_, by decide, rfl⟩ rfl
    | diagnostics reason => exact iff_of_true ⟨_, List.mem_cons_self, rfl⟩ rfl
  | diagnostics reason =>
    exact iff_of_true ⟨_, List.mem_cons_of_mem _ List.mem_cons_self, rfl⟩ rfl
  -- The wording ends in an address, so it is told apart by its beginning.
  | listening address reason =>
    have hbind : ∀ wording ∈ unreported,
        ¬"bind client listener on ".toList <+: wording.toList := by decide
    refine iff_of_false ?_ nofun
    rintro ⟨wording, hmem, heq⟩
    exact append_ne (hbind wording hmem) address.render (Option.some.inj heq)

/-- A check fails with the start's fault for its own reason. -/
theorem orFault_eq_error {ε α : Type} {wrap : ε → Fault} {result : Except ε α} {fault : Fault} :
    orFault wrap result = .error fault ↔
      ∃ reason, result = .error reason ∧ wrap reason = fault := by
  cases result with
  | error reason => simp [orFault, Except.mapError]
  | ok a => simp [orFault, Except.mapError]

/-- A check that is passed stays passed. -/
theorem orFault_eq_ok {ε α : Type} {wrap : ε → Fault} {result : Except ε α} {a : α} :
    orFault wrap result = .ok a ↔ result = .ok a := by
  cases result with
  | error reason => simp [orFault, Except.mapError]
  | ok a => simp [orFault, Except.mapError]

variable {host : Host} {settings : Settings} {source : Source} {now : Moment}

/-- Accepted settings have a quota for every throttle. -/
theorem exists_shared (h : settings.Runs) (policy : Policy) (ledger : Ledger) (now : Moment) :
    ∃ shared, Session.Shared.create policy ledger settings.diagnosticCapacity
      settings.diagnosticWindow now = .ok shared := by
  obtain ⟨auth, hauth⟩ := h.diagnostics "auth" now
  obtain ⟨store, hstore⟩ := h.diagnostics "store" now
  obtain ⟨accept, haccept⟩ := h.diagnostics "accept" now
  refine ⟨⟨.ofPolicy policy, ledger, .empty, auth, store, accept, .empty⟩, ?_⟩
  refine bind_eq_ok.mpr ⟨auth, hauth, ?_⟩
  refine bind_eq_ok.mpr ⟨store, hstore, ?_⟩
  exact bind_eq_ok.mpr ⟨accept, haccept, rfl⟩

/-! ### Servers of accepted settings -/

/-- A database that records are to be kept in can be reached. -/
def Reached (host : Host) (settings : Settings) : Prop :=
  settings.storage = .postgres →
    ∃ postgres ledger, settings.postgres = some postgres ∧ host.connect postgres = .ok ledger

/-- What a server needs of its host beside its settings. -/
structure Fit (host : Host) (settings : Settings) (source : Source) : Prop where
  /-- The server has a key of its own. -/
  key : ∃ pair, source.load host.files host.seed .operator = .ok pair
  /-- The trusted keys are keys of operators. -/
  trusted : ∀ text ∈ settings.trustedKeys, IsKey .operator text
  /-- The allowed keys are keys of users. -/
  allowed : ∀ text ∈ settings.allowedKeys, IsKey .user text
  /-- There is a place for the records. -/
  database : Reached host settings

/-- The ledger of accepted settings is there if their database can be reached. What else can be
wrong with it is not that the settings are incomplete. -/
theorem openLedger_cases (hruns : settings.Runs) (host : Host) :
    (∃ ledger, openLedger host settings.storage settings.postgres = .ok ledger ∧
        Reached host settings) ∨
      ∃ reasons, openLedger host settings.storage settings.postgres =
          .error (.unreachableDatabase reasons) ∧ ¬Reached host settings := by
  cases hstorage : settings.storage with
  | memory => exact .inl ⟨.empty, rfl, fun h => nomatch hstorage.symm.trans h⟩
  | postgres =>
    -- Settings without a database were not accepted.
    obtain ⟨postgres, hpostgres, -⟩ := hruns.database hstorage
    rw [hpostgres, openLedger]
    cases hconnect : host.connect postgres with
    | ok ledger => exact .inl ⟨ledger, rfl, fun _ => ⟨postgres, ledger, hpostgres, hconnect⟩⟩
    | error reasons =>
      refine .inr ⟨reasons, rfl, fun hreached => ?_⟩
      obtain ⟨other, ledger, hother, hledger⟩ := hreached hstorage
      cases hpostgres.symm.trans hother
      cases hconnect.symm.trans hledger

/-- With a policy, accepted settings make a server unless the database cannot be reached: the two
checks that come after it were as good as made when the settings were accepted. -/
theorem assemble_cases (hruns : settings.Runs) (host : Host) (policy : Policy) (now : Moment) :
    (∃ shared, assemble host settings now policy = .ok ⟨settings, settings.sweepRule,
          .create settings.maxLineBytes settings.handshakeTimeout shared⟩ ∧
        Reached host settings) ∨
      ∃ reasons, assemble host settings now policy = .error (.unreachableDatabase reasons) ∧
        ¬Reached host settings := by
  rcases openLedger_cases hruns host with ⟨ledger, hledger, hreached⟩ | ⟨reasons, hledger, hreached⟩
  -- With a ledger, the rule passes its check and the throttles have their quotas.
  · obtain ⟨shared, hshared⟩ := exists_shared hruns policy ledger now
    refine .inl ⟨shared, ?_, hreached⟩
    refine bind_eq_ok.mpr ⟨ledger, hledger, ?_⟩
    refine bind_eq_ok.mpr ⟨(), orFault_eq_ok.mpr hruns.sweeps, ?_⟩
    exact bind_eq_ok.mpr ⟨shared, orFault_eq_ok.mpr hshared, rfl⟩
  · exact .inr ⟨reasons, bind_eq_error.mpr (.inl hledger), hreached⟩

/-- What the checks of accepted settings come to: a server with these settings, if keys, seed and
database are good, and otherwise a fault that is none of the settings. -/
theorem prepare_cases (hruns : settings.Runs) (host : Host) (source : Source) (now : Moment) :
    (∃ shared, prepare host settings source now = .ok ⟨settings, settings.sweepRule,
          .create settings.maxLineBytes settings.handshakeTimeout shared⟩ ∧
        Fit host settings source) ∨
      ∃ fault, prepare host settings source now = .error fault ∧
        fault.refusesSettings = false ∧ ¬Fit host settings source := by
  cases hkey : source.load host.files host.seed .operator with
  | error reason =>
    refine .inr ⟨.serverKey reason, by rw [prepare, hkey]; rfl, rfl, fun hfit => ?_⟩
    obtain ⟨pair, hpair⟩ := hfit.key
    cases hkey.symm.trans hpair
  | ok key =>
    have hprepare : prepare host settings source now =
        orFault .policy (Policy.create settings.policySource key) >>=
          assemble host settings now := by
      rw [prepare, hkey]
      rfl
    have hpolicy := @Policy.exists_create_iff settings.policySource key
    rw [hprepare]
    -- Whether there is a policy is a matter of its keys alone, not of the server's own.
    cases hcreate : Policy.create settings.policySource key with
    | error reason =>
      refine .inr ⟨.policy reason, rfl, rfl, fun hfit => ?_⟩
      obtain ⟨policy, hmade⟩ := hpolicy.mpr ⟨hfit.trusted, hfit.allowed⟩
      cases hcreate.symm.trans hmade
    | ok policy =>
      obtain ⟨htrusted, hallowed⟩ := hpolicy.mp ⟨policy, hcreate⟩
      rcases assemble_cases hruns host policy now with
        ⟨shared, hok, hreached⟩ | ⟨reasons, herror, hreached⟩
      · exact .inl ⟨shared, hok, ⟨key, hkey⟩, htrusted, hallowed, hreached⟩
      · exact .inr ⟨_, herror, rfl, fun hfit => hreached hfit.database⟩

/-- Accepted settings make a server just if keys, seed and database are good. -/
theorem exists_prepare_iff (now : Moment) (hruns : settings.Runs) :
    (∃ server, prepare host settings source now = .ok server) ↔ Fit host settings source := by
  rcases prepare_cases hruns host source now with ⟨shared, hok, hfit⟩ | ⟨fault, herror, -, hunfit⟩
  · exact iff_of_true ⟨_, hok⟩ hfit
  · refine iff_of_false ?_ hunfit
    rintro ⟨server, hok⟩
    cases herror.symm.trans hok

/-- A server has the settings that it was made of, and sweeps by their rule. -/
theorem of_prepare (hruns : settings.Runs) {server : Server}
    (h : prepare host settings source now = .ok server) :
    server.settings = settings ∧ server.rule = settings.sweepRule := by
  rcases prepare_cases hruns host source now with ⟨shared, hok, -⟩ | ⟨fault, herror, -⟩
  · cases hok.symm.trans h
    exact ⟨rfl, rfl⟩
  · cases herror.symm.trans h

/-- Settings that were accepted are not refused any more, whatever else fails. -/
theorem prepare_error (hruns : settings.Runs) {fault : Fault}
    (h : prepare host settings source now = .error fault) : fault.refusesSettings = false := by
  rcases prepare_cases hruns host source now with ⟨shared, hok, -⟩ | ⟨_, herror, hsettings, -⟩
  · cases hok.symm.trans h
  · cases herror.symm.trans h
    exact hsettings

/-- Without a fit host, no server is made of accepted settings. -/
theorem prepare_of_not_fit (now : Moment) (hruns : settings.Runs) (h : ¬Fit host settings source) :
    ∃ fault, prepare host settings source now = .error fault := by
  rcases prepare_cases hruns host source now with ⟨shared, -, hfit⟩ | ⟨fault, herror, -⟩
  · exact absurd hfit h
  · exact ⟨fault, herror⟩

/-! ### Starts -/

/-- What a start comes to when its settings are loaded. -/
theorem start_eq (host : Host) (hload : Settings.load host.env host.files = .ok settings)
    (now : Moment) :
    start host now = prepare host settings (keySource settings) now >>= listen host := by
  rw [start, hload]
  rfl

/-- A start without settings is refused for their fault. -/
theorem start_of_load (host : Host) {reason : Settings.Fault}
    (hload : Settings.load host.env host.files = .error reason) (now : Moment) :
    start host now = .error (.settings reason) := by
  rw [start, hload]
  rfl

/-- The address is opened for any server, or refused for any. -/
theorem listen_eq_ok_iff {server opened : Server} :
    listen host server = .ok opened ↔
      host.refusal? server.settings.listen = none ∧ opened = server := by
  unfold listen
  split
  next reason hrefusal => simp [hrefusal]
  next hopen => simp [hopen, eq_comm]

/-- A server starts just if its settings are accepted, its host is fit for them and the address
for clients can be opened. -/
theorem exists_start_iff :
    (∃ server, start host now = .ok server) ↔
      ∃ settings, Settings.load host.env host.files = .ok settings ∧
        Fit host settings (keySource settings) ∧ host.refusal? settings.listen = none := by
  constructor
  · rintro ⟨opened, hstart⟩
    cases hload : Settings.load host.env host.files with
    | error reason =>
      rw [start_of_load host hload] at hstart
      cases hstart
    | ok settings =>
      have hruns := Settings.runs_of_load hload
      rw [start_eq host hload] at hstart
      obtain ⟨server, hserver, hlisten⟩ := bind_eq_ok.mp hstart
      obtain ⟨hopen, -⟩ := listen_eq_ok_iff.mp hlisten
      -- The address that is opened is that of the settings.
      rw [(of_prepare hruns hserver).1] at hopen
      exact ⟨settings, rfl, (exists_prepare_iff now hruns).mp ⟨server, hserver⟩, hopen⟩
  · rintro ⟨settings, hload, hfit, hopen⟩
    have hruns := Settings.runs_of_load hload
    obtain ⟨server, hserver⟩ := (exists_prepare_iff now hruns).mpr hfit
    refine ⟨server, ?_⟩
    rw [start_eq host hload, hserver]
    apply listen_eq_ok_iff.mpr
    rw [(of_prepare hruns hserver).1]
    exact ⟨hopen, rfl⟩

/-- A start is never refused for settings that were accepted. -/
theorem start_error {fault : Fault} (h : start host now = .error fault) :
    fault.refusesSettings = false := by
  cases hload : Settings.load host.env host.files with
  | error reason =>
    rw [start_of_load host hload] at h
    cases h
    rfl
  | ok settings =>
    rw [start_eq host hload] at h
    rcases bind_eq_error.mp h with hprepare | ⟨server, -, hlisten⟩
    · exact prepare_error (Settings.runs_of_load hload) hprepare
    · unfold listen at hlisten
      split at hlisten
      · cases hlisten
        rfl
      · cases hlisten

/-! ### Starts that are refused -/

/-- A host whose server must not start. -/
inductive Unfit (host : Host) : Prop where
  /-- Something is set to what cannot be read. -/
  | malformed (h : Settings.Malformed host.env host.files)
  /-- The settings are refused for any other reason. -/
  | settings {fault : Settings.Fault} (h : Settings.load host.env host.files = .error fault)
  /-- The seed file of the server holds no operator's seed. -/
  | seed {settings : Settings} {path : String}
      (loaded : Settings.load host.env host.files = .ok settings)
      (named : settings.serverSeedFile = some path)
      (bad : ∀ text pair, host.files.readText path = .ok text →
        KeyPair.ofSeedText text = .ok pair → pair.role ≠ .operator)
  /-- The text of a trusted key is no operator's key. -/
  | trusted {settings : Settings} {text : String}
      (loaded : Settings.load host.env host.files = .ok settings)
      (listed : text ∈ settings.trustedKeys)
      (bad : ∀ key, PublicKey.parseRole .operator text ≠ .ok key)
  /-- The text of an allowed key is no user's key. -/
  | allowed {settings : Settings} {text : String}
      (loaded : Settings.load host.env host.files = .ok settings)
      (listed : text ∈ settings.allowedKeys)
      (bad : ∀ key, PublicKey.parseRole .user text ≠ .ok key)

/-- A seed file without a seed of the role gives no key. -/
theorem load_seedFile {files : Files} {seed : Seed} {path : String} {role : Role}
    (h : ∀ text pair, files.readText path = .ok text → KeyPair.ofSeedText text = .ok pair →
      pair.role ≠ role) :
    ∃ reason, (Source.seedFile path).load files seed role = .error reason := by
  rw [Source.load]
  cases htext : files.readText path with
  | error fault => exact ⟨_, rfl⟩
  | ok text =>
    dsimp only
    cases hpair : KeyPair.ofSeedText text with
    | error fault => exact ⟨_, rfl⟩
    | ok pair => exact ⟨_, if_neg (h text pair htext hpair)⟩

/-- A host whose address for clients comes to something else. -/
def Host.opening (host : Host) (refusal? : SocketAddress → Option String) : Host :=
  { host with refusal? }

/-- Without settings, a start is refused without a look at the address. -/
theorem start_opening_of_load {reason : Settings.Fault}
    (hload : Settings.load host.env host.files = .error reason) (now : Moment) :
    ∃ fault, ∀ refusal?, start (host.opening refusal?) now = .error fault :=
  ⟨_, fun refusal? => start_of_load (host.opening refusal?) hload now⟩

/-- A host that is not fit for its settings is refused without a look at the address. -/
theorem start_opening_of_not_fit (hload : Settings.load host.env host.files = .ok settings)
    (h : ¬Fit host settings (keySource settings)) (now : Moment) :
    ∃ fault, ∀ refusal?, start (host.opening refusal?) now = .error fault := by
  obtain ⟨fault, hfault⟩ := prepare_of_not_fit now (Settings.runs_of_load hload) h
  refine ⟨fault, fun refusal? => ?_⟩
  have hstart : start (host.opening refusal?) now =
      prepare host settings (keySource settings) now >>= listen (host.opening refusal?) :=
    start_eq (host.opening refusal?) hload now
  rw [hstart, hfault]
  rfl

/-- An unfit host is refused whatever opening the address would have come to, so it was not
opened. -/
theorem start_opening_of_unfit (h : Unfit host) (now : Moment) :
    ∃ fault, ∀ refusal?, start (host.opening refusal?) now = .error fault := by
  cases h with
  | malformed h =>
    cases hload : Settings.load host.env host.files with
    | error reason => exact start_opening_of_load hload now
    | ok settings => exact absurd hload (Settings.load_ne_ok_of_malformed h)
  | settings hload => exact start_opening_of_load hload now
  -- Each of the other three leaves one part of `Fit` out.
  | seed loaded named bad =>
    refine start_opening_of_not_fit loaded (fun hfit => ?_) now
    obtain ⟨pair, hpair⟩ := hfit.key
    obtain ⟨reason, hreason⟩ := @load_seedFile _ host.seed _ .operator bad
    rw [keySource, named] at hpair
    cases hreason.symm.trans hpair
  | trusted loaded listed bad =>
    refine start_opening_of_not_fit loaded (fun hfit => ?_) now
    obtain ⟨key, hkey⟩ := hfit.trusted _ listed
    exact bad key hkey
  | allowed loaded listed bad =>
    refine start_opening_of_not_fit loaded (fun hfit => ?_) now
    obtain ⟨key, hkey⟩ := hfit.allowed _ listed
    exact bad key hkey

/-- **Accepted settings can run**, for every environment and every file:

* All that the parts of a server need of settings holds of settings that were loaded. On any host
  they make a server, with these settings and their rule, just if keys, seed and database are good
  there. No part of it refuses the settings, and none of the faults that would say so is reported.
* A server starts just if its settings are accepted, its host is fit for them and the address for
  clients can be opened.
* A host with a setting, a seed or a key that is no good is refused, and the address for clients
  is not opened. -/
theorem accepted_settings_run (host : Host) (now : Moment) :
    (∀ settings, Settings.load host.env host.files = .ok settings →
      settings.Runs ∧ ∀ (elsewhere : Host) (source : Source),
        ((∃ server, prepare elsewhere settings source now = .ok server) ↔
          Fit elsewhere settings source) ∧
        (∀ server, prepare elsewhere settings source now = .ok server →
          server.settings = settings ∧ server.rule = settings.sweepRule) ∧
        ∀ fault, prepare elsewhere settings source now = .error fault →
          fault.refusesSettings = false ∧
            ∀ wording ∈ unreported, fault.chain.head? ≠ some wording) ∧
      ((∃ server, start host now = .ok server) ↔
        ∃ settings, Settings.load host.env host.files = .ok settings ∧
          Fit host settings (keySource settings) ∧ host.refusal? settings.listen = none) ∧
      (∀ fault, start host now = .error fault →
        fault.refusesSettings = false ∧
          ∀ wording ∈ unreported, fault.chain.head? ≠ some wording) ∧
      (Unfit host → ∃ fault, ∀ refusal?, start (host.opening refusal?) now = .error fault) := by
  have hunreported : ∀ fault : Fault, fault.refusesSettings = false →
      ∀ wording ∈ unreported, fault.chain.head? ≠ some wording := by
    intro fault hfault wording hmem heq
    cases hfault.symm.trans ((head?_chain_mem_iff fault).mp ⟨wording, hmem, heq⟩)
  refine ⟨fun settings hload => ?_, exists_start_iff, fun fault hstart => ?_,
    fun hunfit => start_opening_of_unfit hunfit now⟩
  · have hruns := Settings.runs_of_load hload
    refine ⟨hruns, fun elsewhere source => ⟨exists_prepare_iff now hruns, ?_, ?_⟩⟩
    · intro server hserver
      exact of_prepare hruns hserver
    · intro fault hprepare
      have hfault := prepare_error hruns hprepare
      exact ⟨hfault, hunreported fault hfault⟩
  · have hfault := start_error hstart
    exact ⟨hfault, hunreported fault hfault⟩

/-- A server that keeps its records in a database, and one that is to trust a text which is no
key. -/
theorem accepted_settings_run_of_database :
    let hostOf (trusted : String) : Host :=
      ⟨Settings.environmentOf [("WARDEN_STORE_BACKEND", "postgres"),
          ("WARDEN_PG_URL", "postgres://db"), ("WARDEN_TRUSTED_KEYS", trusted)],
        fun _ => .error .missing, ⟨List.replicate 32 7, rfl⟩, fun _ => .ok .empty, fun _ => none⟩
    (∃ server, start (hostOf "") 0 = .ok server) ∧
      ∃ fault, ∀ refusal?, start ((hostOf "X").opening refusal?) 0 = .error fault := by
  intro hostOf
  let settings : Settings :=
    { Settings.standard with storage := .postgres, postgres := some ⟨"postgres://db", 10, 5000⟩ }
  -- What the two environments are loaded as is evaluated. The rest is read off the theorem.
  have hload : Settings.load (hostOf "").env (hostOf "").files = .ok settings := by
    decide +kernel
  have hbad : Settings.load (hostOf "X").env (hostOf "X").files =
      .ok { settings with trustedKeys := ["X"] } := by
    decide +kernel
  obtain ⟨-, hstarts, -, -⟩ := accepted_settings_run (hostOf "") 0
  obtain ⟨-, -, -, hrefused⟩ := accepted_settings_run (hostOf "X") 0
  refine ⟨hstarts.mpr ⟨settings, hload, ⟨⟨_, rfl⟩, nofun, nofun, ?_⟩, rfl⟩, ?_⟩
  · exact fun _ => ⟨_, .empty, rfl, rfl⟩
  · refine hrefused (.trusted hbad List.mem_cons_self fun key => ?_)
    have hkey : (PublicKey.parseRole .operator "X").toOption = none := by decide +kernel
    rintro heq
    rw [heq] at hkey
    cases hkey

end Gatekeeper.Startup

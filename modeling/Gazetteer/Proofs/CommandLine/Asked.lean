/-
Gazetteer.Proofs.CommandLine.Asked — what a run of the program asks for.

Nothing but addresses and blocks, with nothing blank around them, comes to a service
whose requests are those of lines. So these are all that its cache ever holds and all
that its store is asked for, in whatever order the workers go about their lines; and a
store on a location database never has to say that it cannot read an address.
-/
import Gazetteer.Proofs.CommandLine.Crew
import Gazetteer.Proofs.Enrichment.Asked
import Gazetteer.Proofs.Store.Silence

namespace Gazetteer

variable {σ : Type} {ask : String → σ → Option Resolved × σ} {good : σ → Prop}
  {p : String → Prop} {s : Service} {store : σ} {address : String}

/-! ## The keys of a service -/

namespace Service

/-- The cache, if there is one, holds locations of such texts only. -/
def KeysAre (p : String → Prop) (s : Service) : Prop :=
  ∀ cache, s.cache = some cache → cache.Every fun key _ => p key

theorem keysAre_created {size : Nat} {cacheEnabled : Bool}
    (h : create size cacheEnabled = .ok s) : s.KeysAre p := by
  obtain rfl := create_eq h
  intro cache hc
  cases cacheEnabled with
  | false => cases hc
  | true =>
    obtain rfl := Option.some.inj hc
    exact RecencyCache.every_empty size

theorem KeysAre.consult (h : s.KeysAre p) (address : String) : (s.consult address).2.KeysAre p := by
  unfold Service.consult
  split
  · exact h
  · next cache hc =>
    intro later hlater
    obtain rfl := Option.some.inj hlater
    exact (h cache hc).get address

theorem KeysAre.keep (h : s.KeysAre p) (ha : p address) (location : Location) :
    (s.keep address location).KeysAre p := by
  intro later hlater
  obtain ⟨cache, hc, rfl⟩ := Option.map_eq_some_iff.1 hlater
  exact (h cache hc).put ha

theorem KeysAre.count (h : s.KeysAre p) (event : Event) : (s.count event).KeysAre p := h

/-- A step of a request keeps nothing but the text that is asked for, and asks for nothing else. -/
theorem KeysAre.step (h : s.KeysAre p) (ha : p address) (ask : String → σ → Option Resolved × σ)
    (store : σ) (place : Place) :
    (place.step ask address s store).2.1.KeysAre p ∧
      ((place.step ask address s store).2.2 = store ∨
        (place.step ask address s store).2.2 = (ask address store).2) := by
  cases place with
  | consulting =>
    have hkeys := h.consult address
    rcases hcon : s.consult address with ⟨_ | location, later⟩
    · rw [step_missed hcon]
      rw [hcon] at hkeys
      exact ⟨hkeys, .inl rfl⟩
    · rw [step_found hcon]
      rw [hcon] at hkeys
      exact ⟨hkeys, .inl rfl⟩
  | asking => exact ⟨h, .inr rfl⟩
  | answered answer =>
    cases answer with
    | none => exact ⟨h, .inl rfl⟩
    | some resolved => exact ⟨h, .inl rfl⟩
  | keeping location => exact ⟨h.keep ha location, .inl rfl⟩
  | _ => exact ⟨h, .inl rfl⟩

/-- Neither does a request in one piece. -/
theorem KeysAre.resolve (h : s.KeysAre p) (ha : p address)
    (ask : String → σ → Option Resolved × σ) (store : σ) :
    (s.resolve ask address store).2.1.KeysAre p ∧
      ((s.resolve ask address store).2.2 = store ∨
        (s.resolve ask address store).2.2 = (ask address store).2) := by
  have hkeys := h.consult address
  unfold Service.resolve
  rcases hcon : s.consult address with ⟨_ | location, later⟩
  · rw [hcon] at hkeys
    have hmiss : later.countMiss.KeysAre p := by
      unfold countMiss
      split
      · exact hkeys.count _
      · exact hkeys
    have hanswer : (later.countMiss.countAnswer (ask address store).1).KeysAre p := by
      unfold countAnswer
      split
      · exact hmiss.count _
      · dsimp only
        split
        · exact (hmiss.count _).count _
        · exact hmiss.count _
    exact ⟨hanswer.keep ha _, .inr rfl⟩
  · rw [hcon] at hkeys
    exact ⟨hkeys.count _, .inl rfl⟩

end Service

namespace CommandLine

open Enrichment (IsAskable plan)

variable {service : Service} {addressField : String} {workers : Nat} {task : Task}

/-- Asking for an address or a block keeps a store good. -/
def KeptByAsking (ask : String → σ → Option Resolved × σ) (good : σ → Prop) : Prop :=
  ∀ text store, IsAskable text → good store → good (ask text store).2

theorem KeptByAsking.of_cases (h : KeptByAsking ask good) (hg : good store)
    (ha : IsAskable address) {later : σ} (hl : later = store ∨ later = (ask address store).2) :
    good later := by
  rcases hl with rfl | rfl
  · exact hg
  · exact h address store ha hg

/-! ## Line by line -/

/-- A service with the store behind it: what it holds has been asked for, and its store is good. -/
def IsClean (good : σ → Prop) (state : Service × σ) : Prop :=
  state.1.KeysAre IsAskable ∧ good state.2

theorem isClean_answer (h : KeptByAsking ask good) {state : Service × σ}
    (hs : IsClean good state) (addressField line : String) :
    IsClean good (Enrichment.answer addressField (serve ask) line state).2 := by
  refine Enrichment.answer_keeps ?_ hs addressField line
  rintro text ⟨service, store⟩ ha ⟨hkeys, hg⟩
  obtain ⟨hkeys, hstore⟩ := hkeys.resolve ha ask store
  exact ⟨hkeys, h.of_cases hg ha hstore⟩

theorem answerBatch_keeps {answer : String → σ → Option (List Char) × σ}
    (h : ∀ line state, good state → good (answer line state).2) (hg : good store)
    (lines : List String) : good (answerBatch answer lines store).2 := by
  induction lines generalizing store with
  | nil => exact hg
  | cons line lines ih => exact ih (h line store hg)

theorem answerAll_keeps {answer : String → σ → Option (List Char) × σ}
    (h : ∀ line state, good state → good (answer line state).2) (hg : good store)
    (groups : List (List String)) : good (answerAll answer groups store).2 := by
  induction groups generalizing store with
  | nil => exact hg
  | cons lines groups ih => exact ih (answerBatch_keeps h hg lines)

/-! ## Many workers -/

/-- A worker on its way through a request asks for such a text. -/
def Task.AsksFor (p : String → Prop) : Task → Prop
  | asking caller _ => p caller.address
  | spawned _ | done _ => True

theorem Task.asksFor_ofPlan (addressField line : String) :
    (ofPlan (plan addressField line)).AsksFor IsAskable := by
  cases hplan : plan addressField line with
  | done text => trivial
  | lookUp address finish =>
    obtain ⟨h, hkind⟩ := Enrichment.asked?_plan_iff.1 (congrArg Enrichment.Plan.asked? hplan)
    exact h.isAskable hkind

theorem Task.asksFor_ofPlace (ha : p address) (finish : Location → List Char)
    (place : Service.Place) : (ofPlace address finish place).AsksFor p := by
  cases place with
  | returned location => trivial
  | _ => exact ha

/-- A step of a worker asks for an address or a block, if for anything. -/
theorem Task.step_clean (ht : task.AsksFor IsAskable) (h : KeptByAsking ask good)
    (hk : service.KeysAre IsAskable) (hg : good store) (addressField : String) :
    (task.step ask addressField service store).1.AsksFor IsAskable ∧
      (task.step ask addressField service store).2.1.KeysAre IsAskable ∧
      good (task.step ask addressField service store).2.2 := by
  cases task with
  | spawned line => exact ⟨asksFor_ofPlan addressField line, hk, hg⟩
  | asking caller finish =>
    obtain ⟨hkeys, hstore⟩ := hk.step ht ask store caller.place
    exact ⟨asksFor_ofPlace ht finish _, hkeys, h.of_cases hg ht hstore⟩
  | done text => exact ⟨trivial, hk, hg⟩

namespace Crew

variable {c : Crew σ}

/-- What a crew holds has been asked for, its store is good, and its workers ask for addresses and
blocks only. -/
structure IsClean (good : σ → Prop) (c : Crew σ) : Prop where
  keys : c.service.KeysAre IsAskable
  store : good c.store
  tasks : ∀ task ∈ c.gathered, task.AsksFor IsAskable

theorem isClean_start (hk : service.KeysAre IsAskable) (hg : good store) (lines : List String) :
    (start service store lines).IsClean good :=
  ⟨hk, hg, by simp [start]⟩

theorem IsClean.drain (h : c.IsClean good) : c.drain.IsClean good := by
  unfold Crew.drain
  split
  · next text gathered hgathered =>
    refine ⟨h.keys, h.store, ?_⟩
    intro task hm
    exact h.tasks task (by simp [hgathered, show task ∈ gathered from hm])
  · exact h

theorem IsClean.read (h : c.IsClean good) (workers : Nat) : (c.read workers).IsClean good := by
  unfold Crew.read
  split
  · exact ⟨h.keys, h.store, h.tasks⟩
  · refine ⟨h.keys, h.store, ?_⟩
    intro task hm
    rcases List.mem_append.1 hm with hm | hm
    · exact h.tasks task hm
    · obtain rfl := List.mem_singleton.1 hm
      trivial

theorem IsClean.next (h : c.IsClean good) (hask : KeptByAsking ask good) (workers : Nat)
    (addressField : String) (turn : Turn) :
    (c.next workers ask addressField turn).IsClean good := by
  cases turn with
  | reader =>
    unfold Crew.next
    dsimp only
    split
    · exact h.drain
    · exact h.read workers
  | worker number =>
    cases hn : c.gathered[number]? with
    | none => rwa [next_of_none hn]
    | some task =>
      rw [next_of_some hn]
      obtain ⟨htask, hkeys, hgood⟩ := Task.step_clean (h.tasks task (List.mem_of_getElem? hn)) hask
        h.keys h.store addressField
      refine ⟨hkeys, hgood, ?_⟩
      intro other hm
      rcases List.mem_or_eq_of_mem_set hm with hm | rfl
      · exact h.tasks other hm
      · exact htask

/-- However the workers go about their lines, they ask for addresses and blocks only. -/
theorem IsClean.run (h : c.IsClean good) (hask : KeptByAsking ask good) (workers : Nat)
    (addressField : String) (turns : List Turn) :
    (c.run workers ask addressField turns).IsClean good := by
  induction turns generalizing c with
  | nil => exact h
  | cons turn turns ih => exact ih (h.next hask workers addressField turn)

end Crew

/-! ## Stores on a location database -/

/-- A store on a location database, in a world where nobody has said that an address cannot be
read. -/
def IsQuiet (state : Store × World) : Prop :=
  (∃ tables, state.1 = .relational tables) ∧ .unreadableAddress ∉ state.2.notices

theorem keptByAsking_isQuiet : KeptByAsking Store.ask IsQuiet := by
  rintro text ⟨store, w⟩ ⟨hkind, -⟩ ⟨⟨tables, hstore⟩, hn⟩
  obtain rfl : store = .relational tables := hstore
  exact ⟨⟨_, rfl⟩, Store.Relational.resolve_silent hkind hn⟩

theorem storeOfSettings_quiet {settings : Settings} {w : World}
    (hr : settings.resolver = .relational) (hn : .unreadableAddress ∉ w.notices) :
    .unreadableAddress ∉ (Store.ofSettings settings w).2.notices ∧
      ∀ store, (Store.ofSettings settings w).1 = .ok store →
        ∃ tables, store = .relational tables := by
  unfold Store.ofSettings
  split
  · exact ⟨hn, by simp⟩
  · next path hpath =>
    rw [hr]
    refine ⟨Store.Relational.openExisting_silent (by simp) hn, ?_⟩
    intro store hstore
    obtain ⟨tables, -, rfl⟩ := Json.map_eq_ok.1 hstore
    exact ⟨tables, rfl⟩

theorem close_quiet {store : Store} {w : World} (h : IsQuiet (store, w)) :
    .unreadableAddress ∉ (store.close w).2.notices := by
  obtain ⟨⟨tables, hstore⟩, hn⟩ := h
  obtain rfl : store = .relational tables := hstore
  show .unreadableAddress ∉ (w.closeAll tables.pool.idle).notices
  rwa [World.closeAll_notices]

/-- A service that has just been started, or has not been able to start, has said nothing of
addresses. -/
theorem serviceOfSettings_quiet {settings : Settings} {w : World}
    (hr : settings.resolver = .relational) (hn : .unreadableAddress ∉ w.notices) :
    .unreadableAddress ∉ (Service.ofSettings settings w).2.notices ∧
      ∀ store service, (Service.ofSettings settings w).1 = .ok (store, service) →
        IsQuiet (store, (Service.ofSettings settings w).2) := by
  obtain ⟨hquiet, hstore⟩ := storeOfSettings_quiet hr hn
  unfold Service.ofSettings
  rcases hbuilt : Store.ofSettings settings w with ⟨cause | store, started⟩
  all_goals rw [hbuilt] at hquiet hstore
  · exact ⟨hquiet, by simp⟩
  · have hquiet : IsQuiet (store, started) := ⟨hstore store rfl, hquiet⟩
    dsimp only
    split
    · exact ⟨close_quiet hquiet, by simp⟩
    · refine ⟨hquiet.2, ?_⟩
      rintro other service heq
      obtain ⟨rfl, -⟩ := Prod.mk.inj (Except.ok.inj heq)
      exact hquiet

/-- A run of the program whose resolver is a location database says nothing of addresses. -/
theorem run_quiet {environment : String → Option String} {w : World}
    (hr : ∀ c, (Configuration.load environment).1 = .ok c → c.settings.resolver = .relational)
    (hn : .unreadableAddress ∉ w.notices) (input : List UInt8) :
    .unreadableAddress ∉ (run environment input w).2.notices := by
  unfold run
  split
  · exact hn
  · next configuration hload =>
    obtain ⟨hquiet, hstarted⟩ := serviceOfSettings_quiet (hr configuration hload) hn
    split
    · next cause started heq =>
      rw [heq] at hquiet
      exact hquiet
    · next store service started heq =>
      rw [heq] at hstarted
      have hclean : IsClean IsQuiet (service, store, started) :=
        ⟨Service.keysAre_created (created_of_settings heq), hstarted store service rfl⟩
      have hkeep (line : String) (state : Running) (hs : IsClean IsQuiet state) :
          IsClean IsQuiet (Enrichment.answer configuration.addressField ask line state).2 :=
        isClean_answer keptByAsking_isQuiet hs configuration.addressField line
      have hend := answerAll_keeps hkeep hclean
        (batches configuration.workers [] (readLines (Text.lines input)).1)
      have hclosed := close_quiet hend.2
      dsimp only
      split
      · exact hclosed
      · exact hclosed

/-! ## Runs of the program -/

variable {environment : String → Option String} {configuration : Configuration}
  {w started : World} {store : Store}

/-- **Only addresses and blocks are asked for.** Whoever answers a line asks for its address text,
once, if that is an address or a block, and otherwise asks for nothing and touches nothing. So
whatever the lines of a run of the program are and in whatever order its workers go about them, the
keys in the cache are addresses and blocks with nothing blank around them, and nothing else comes to
the store: all that asking it for these keeps stays as it is. A store on a location database never
says that it cannot read an address, neither between two requests of a run nor by its end. That is
because a lookup says so only of a text that is none; lookups whose statements come in turns do not
say so either. -/
theorem only_addresses_asked (hload : (Configuration.load environment).1 = .ok configuration)
    (hstart : Service.ofSettings configuration.settings w = (.ok (store, service), started)) :
    (∀ {τ : Type} (ask : String → τ → Location × τ) (addressField line : String) (state : τ)
      (asked : List String), Enrichment.AsksOnce ask addressField line state asked
        (Enrichment.answer addressField (Enrichment.noting ask) line (state, asked))) ∧
    (∀ (good : Store × World → Prop) (lines : List String), KeptByAsking Store.ask good →
      good (store, started) →
      (∀ turns : List Crew.Turn,
        let now := (Crew.start service (store, started) lines).run configuration.workers Store.ask
          configuration.addressField turns
        now.service.KeysAre IsAskable ∧ good now.store) ∧
      let after := (answerAll (Enrichment.answer configuration.addressField (serve Store.ask))
        (batches configuration.workers [] lines) (service, store, started)).2
      after.1.KeysAre IsAskable ∧ good after.2) ∧
    (configuration.settings.resolver = .relational → .unreadableAddress ∉ w.notices →
      (∀ (lines : List String) (turns : List Crew.Turn),
        let now := (Crew.start service (store, started) lines).run configuration.workers Store.ask
          configuration.addressField turns
        .unreadableAddress ∉ now.store.2.notices) ∧
      ∀ input, .unreadableAddress ∉ (run environment input w).2.notices) ∧
    (∀ persists text, (Store.Script.lookup persists text).NeverTells .unreadableAddress ↔
      Address.kind text ≠ .invalid) ∧
    ∀ (c : Store.Crowd) (events : List Store.Event), c.CanRead →
      (∀ event ∈ events, event.IsReadable) → .unreadableAddress ∉ (c.run events).notices := by
  have hkeys : service.KeysAre IsAskable := Service.keysAre_created (created_of_settings hstart)
  have hcrew {good : Store × World → Prop} (hask : KeptByAsking Store.ask good)
      (hg : good (store, started)) (lines : List String) (turns : List Crew.Turn) :=
    (Crew.isClean_start hkeys hg lines).run hask configuration.workers configuration.addressField
      turns
  refine ⟨fun ask => Enrichment.asksOnce ask, ?_, ?_, Store.Script.neverTells_lookup_iff, ?_⟩
  · intro good lines hask hg
    have hclean : IsClean good (service, store, started) := ⟨hkeys, hg⟩
    refine ⟨fun turns => ⟨(hcrew hask hg lines turns).keys, (hcrew hask hg lines turns).store⟩, ?_⟩
    refine answerAll_keeps ?_ hclean _
    intro line state hs
    exact isClean_answer hask hs configuration.addressField line
  · intro hr hn
    have hquiet : IsQuiet (store, started) := by
      have hquiet := (serviceOfSettings_quiet hr hn).2 store service
      rw [hstart] at hquiet
      exact hquiet rfl
    refine ⟨fun lines turns => (hcrew keptByAsking_isQuiet hquiet lines turns).store.2, ?_⟩
    refine run_quiet ?_ hn
    intro c hc
    obtain rfl := Except.ok.inj (hload.symm.trans hc)
    exact hr
  · intro c events hc he
    exact (hc.run he).notices

/-- Only where the location database is. -/
def geoEnvironment (name : String) : Option String :=
  if name = "GEOENRICH_DATASOURCE" then some "geo.db" else none

/-- An address with white space behind it, a text that is none, and an event that holds an address:
the second is not asked for, though the store would say that it cannot read it. -/
theorem only_addresses_asked_dutch :
    let w := Store.Relational.worldOf "geo.db" (.database Store.Relational.dutch)
    let settings := { Settings.standard with datasource := some "geo.db" }
    let lines := ["10.0.0.7 ", "hello", "\x7b\"ip\":\" 10.0.0.9\"\x7d"]
    (Configuration.load geoEnvironment).1 = .ok ⟨settings, 8, "ip", false⟩ ∧
    ∃ store service started,
      Service.ofSettings settings w = (.ok (store, service), started) ∧
      (∀ turns : List Crew.Turn,
        let now := (Crew.start service (store, started) lines).run 8 Store.ask "ip" turns
        now.service.KeysAre IsAskable ∧ .unreadableAddress ∉ now.store.2.notices) ∧
      (Enrichment.answer "ip" (Enrichment.noting (serve Store.ask)) "hello"
        ((service, store, started), [])).2 = ((service, store, started), []) ∧
      .unreadableAddress ∈ (Store.ask "hello" (store, started)).2.2.notices := by
  intro w settings lines
  have hload : (Configuration.load geoEnvironment).1 = .ok ⟨settings, 8, "ip", false⟩ := by
    decide +kernel
  have hstarts : (Service.ofSettings settings w).1.isOk = true := by decide +kernel
  have hdirect : (Service.ofSettings settings w).1.toOption.map (fun built =>
      (Store.ask "hello" (built.1, (Service.ofSettings settings w).2)).2.2.notices) =
      some [.unreadableAddress] := by
    decide +kernel
  rcases hstart : Service.ofSettings settings w with ⟨cause | ⟨store, service⟩, started⟩
  all_goals rw [hstart] at hstarts hdirect
  · cases hstarts
  · obtain ⟨hline, hruns, hquiet, -⟩ := only_addresses_asked hload hstart
    obtain ⟨hsilent, -⟩ := hquiet rfl (by decide +kernel)
    refine ⟨hload, store, service, started, rfl, ?_, ?_, ?_⟩
    · intro turns
      obtain ⟨hmoments, -⟩ := hruns (fun _ => True) lines (fun _ _ _ _ => trivial) trivial
      exact ⟨(hmoments turns).1, hsilent lines turns⟩
    · refine (hline _ "ip" "hello" _ _).untouched ?_
      intro text h
      cases h with
      | bare _ _ => decide +kernel
      | field hevent _ => exact absurd hevent.1 (by decide +kernel)
    · rw [show (Store.ask "hello" (store, started)).2.2.notices = _ from Option.some.inj hdirect]
      exact List.mem_singleton_self _

end CommandLine

end Gazetteer

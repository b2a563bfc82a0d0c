/-
Gazetteer.Proofs.Settings.Accepted — accepted settings fail on nothing but their datasource.

Whether they come from pairs or from the environment, settings that are accepted
have positive sizes, and a datasource is trimmed text that is not empty. The checks
of the store, of its pool, of both caches and of the service ask for no more. So a
resolver starts, or there is no datasource, or the datasource cannot be opened or
lacks a table; and there is no datasource exactly when none was given or the last
one was blank.
-/
import Gazetteer.Configuration
import Gazetteer.Proofs.Text.Trimmed
import Gazetteer.Session

namespace Gazetteer

namespace Settings

variable {s mid later : Settings} {key value path : String} {pairs : List (String × String)}
  {notices : List Notice}

/-! ## One value -/

theorem readSize_pos {fallback n : Nat} {invalid : Int → ConfigError} (hf : 0 < fallback)
    (h : (readSize key value fallback invalid).1 = .ok n) : 0 < n := by
  unfold readSize at h
  split at h
  · next size _ =>
    split at h
    · next hpos =>
      obtain rfl := Except.ok.inj h
      omega
    · cases h
  · exact Except.ok.inj h ▸ hf

/-- There is nothing but white space. -/
def IsBlank (value : String) : Prop := ∀ c ∈ value.toList, Text.isBlank c = true

theorem readDatasource_eq_none_iff : readDatasource value = none ↔ IsBlank value := by
  unfold readDatasource IsBlank
  rw [← Text.isEmpty_trim_iff, ite_eq_left_iff]
  simp

theorem readDatasource_some (h : readDatasource value = some path) :
    path ≠ "" ∧ Text.trim path = path := by
  unfold readDatasource at h
  dsimp only at h
  split at h
  · cases h
  · next hempty =>
    obtain rfl := Option.some.inj h
    exact ⟨fun hnone => hempty (String.isEmpty_iff.2 hnone), Text.trim_trim value⟩

/-! ## One pair -/

theorem Key.ofName?_eq_some_iff {key : Key} {name : String} :
    Key.ofName? name = some key ↔ name = key.name := by
  constructor
  · intro h
    unfold ofName? at h
    have hname := List.find?_some h
    exact (beq_iff_eq.1 hname).symm
  · rintro rfl
    cases key <;> decide

/-- What a pair that is accepted makes of the settings: it sets the field of its key. -/
inductive Sets (s : Settings) (key value : String) : Settings → Prop where
  | unknown (named : Key.ofName? key = none) : Sets s key value s
  | resolver {kind : ResolverKind} (named : Key.ofName? key = some .resolver)
      (reads : ResolverKind.ofName value = .ok kind) :
      Sets s key value { s with resolver := kind }
  | datasource (named : Key.ofName? key = some .datasource) :
      Sets s key value { s with datasource := readDatasource value }
  | cacheSize {size : Nat} (named : Key.ofName? key = some .cacheSize)
      (reads : (readSize key value defaultCacheSize .invalidCacheSize).1 = .ok size) :
      Sets s key value { s with cacheSize := size }
  | poolSize {size : Nat} (named : Key.ofName? key = some .poolSize)
      (reads : (readSize key value defaultPoolSize .invalidPoolSize).1 = .ok size) :
      Sets s key value { s with poolSize := size }
  | cacheEnabled (named : Key.ofName? key = some .cacheEnabled) :
      Sets s key value { s with cacheEnabled := (readSwitch key value).1 }
  | persists (named : Key.ofName? key = some .persists) :
      Sets s key value { s with persists := (readSwitch key value).1 }

theorem sets_of_set (h : (s.set key value).1 = .ok later) : s.Sets key value later := by
  unfold Settings.set at h
  split at h
  · next hk => exact Except.ok.inj h ▸ .unknown hk
  · next hk =>
    rcases hr : ResolverKind.ofName value with cause | kind <;> simp only [hr] at h
    · cases h
    · exact Except.ok.inj h ▸ .resolver hk hr
  · next hk => exact Except.ok.inj h ▸ .datasource hk
  · next hk =>
    rcases hr : (readSize key value defaultCacheSize .invalidCacheSize).1 with cause | size <;>
      simp only [hr] at h
    · cases h
    · exact Except.ok.inj h ▸ .cacheSize hk hr
  · next hk =>
    rcases hr : (readSize key value defaultPoolSize .invalidPoolSize).1 with cause | size <;>
      simp only [hr] at h
    · cases h
    · exact Except.ok.inj h ▸ .poolSize hk hr
  · next hk => exact Except.ok.inj h ▸ .cacheEnabled hk
  · next hk => exact Except.ok.inj h ▸ .persists hk

/-- Every check of these settings passes. -/
structure IsSound (s : Settings) : Prop where
  cacheSize : 0 < s.cacheSize
  poolSize : 0 < s.poolSize
  datasource : ∀ path, s.datasource = some path → path ≠ "" ∧ Text.trim path = path

theorem isSound_standard : standard.IsSound where
  cacheSize := by decide
  poolSize := by decide
  datasource _ h := by cases h

theorem Sets.isSound (h : s.Sets key value later) (hs : s.IsSound) : later.IsSound := by
  cases h with
  | unknown => exact hs
  | resolver | cacheEnabled | persists => exact ⟨hs.cacheSize, hs.poolSize, hs.datasource⟩
  | datasource =>
    refine ⟨hs.cacheSize, hs.poolSize, fun path hp => ?_⟩
    dsimp only at hp
    exact readDatasource_some hp
  | cacheSize _ reads => exact ⟨readSize_pos (by decide) reads, hs.poolSize, hs.datasource⟩
  | poolSize _ reads => exact ⟨hs.cacheSize, readSize_pos (by decide) reads, hs.datasource⟩

theorem Sets.datasource_eq (h : s.Sets key value later) :
    later.datasource =
      if key = Key.datasource.name then readDatasource value else s.datasource := by
  have hother {other : Option Key} (hk : Key.ofName? key = other) (hne : other ≠ some .datasource) :
      key ≠ Key.datasource.name := fun heq => hne (hk ▸ Key.ofName?_eq_some_iff.2 heq)
  cases h with
  | datasource hk => rw [if_pos (Key.ofName?_eq_some_iff.1 hk)]
  | unknown hk => rw [if_neg (hother hk (by decide))]
  | resolver hk => rw [if_neg (hother hk (by decide))]
  | cacheSize hk => rw [if_neg (hother hk (by decide))]
  | poolSize hk => rw [if_neg (hother hk (by decide))]
  | cacheEnabled hk => rw [if_neg (hother hk (by decide))]
  | persists hk => rw [if_neg (hother hk (by decide))]

/-! ## All pairs -/

theorem setAll_cons_ok (h : (s.setAll ((key, value) :: pairs)).1 = .ok later) :
    ∃ mid, s.Sets key value mid ∧ (mid.setAll pairs).1 = .ok later := by
  unfold setAll at h
  rcases hset : s.set key value with ⟨cause | mid, notices⟩ <;> simp only [hset] at h
  · cases h
  · exact ⟨mid, sets_of_set (by rw [hset]), h⟩

theorem IsSound.setAll (hs : s.IsSound) (h : (s.setAll pairs).1 = .ok later) : later.IsSound := by
  induction pairs generalizing s with
  | nil => exact Except.ok.inj h ▸ hs
  | cons pair pairs ih =>
    obtain ⟨mid, hsets, hrest⟩ := setAll_cons_ok h
    exact ih (hsets.isSound hs) hrest

/-- The value of the last pair of a key. -/
def last? (key : Key) (pairs : List (String × String)) : Option String :=
  pairs.reverse.lookup key.name

/-- The datasource is that of the last pair that gives one, be it blank. -/
theorem datasource_setAll (h : (s.setAll pairs).1 = .ok later) :
    later.datasource = (last? .datasource pairs).elim s.datasource readDatasource := by
  induction pairs generalizing s with
  | nil => exact Except.ok.inj h ▸ rfl
  | cons pair pairs ih =>
    obtain ⟨key, value⟩ := pair
    obtain ⟨mid, hsets, hrest⟩ := setAll_cons_ok h
    rw [ih hrest, hsets.datasource_eq, last?, last?, List.reverse_cons, List.lookup_append]
    cases pairs.reverse.lookup Key.datasource.name with
    | some later => rfl
    | none =>
      by_cases hk : key = Key.datasource.name
      · simp [hk]
      · have hne : (Key.datasource.name == key) = false := beq_eq_false_iff_ne.2 (Ne.symm hk)
        simp [hk, List.lookup_cons, hne]

end Settings

/-! ## Building -/

section Building

open Settings (IsSound)

variable {s : Settings} {α : Type} {w later : World}

/-- Settings with a datasource build something, or the datasource cannot be opened or lacks a table.
Settings without one build nothing, for that reason. -/
def EndsAtDatasource (s : Settings) (result : Except ConfigError α) : Prop :=
  match s.datasource with
  | none => result = .error .missingDatasource
  | some path =>
    ∀ cause, result = .error cause →
      cause = .cannotOpen path ∨ ∃ table : Database.Table, cause = .missingTable path table.name

/-- Only the error counts. -/
theorem EndsAtDatasource.of_sameError {β : Type} {result : Except ConfigError α}
    {other : Except ConfigError β} (h : EndsAtDatasource s result)
    (hsame : ∀ cause, other = .error cause ↔ result = .error cause) : EndsAtDatasource s other := by
  unfold EndsAtDatasource at *
  cases hd : s.datasource with
  | none =>
    simp only [hd] at h ⊢
    exact (hsame _).2 h
  | some path =>
    simp only [hd] at h ⊢
    exact fun cause hcause => h cause ((hsame cause).1 hcause)

theorem EndsAtDatasource.map {β : Type} {result : Except ConfigError α} (f : α → β)
    (h : EndsAtDatasource s result) : EndsAtDatasource s (result.map f) :=
  h.of_sameError fun cause => by cases result <;> simp [Except.map]

theorem openExisting_ends {path : String} {options : Store.Options} (hd : s.datasource = some path)
    (hpath : path ≠ "") (hpool : 0 < options.limits.maxConnections)
    (hcache : 0 < options.encodingCacheSize) :
    EndsAtDatasource s (Store.Relational.openExisting w path options).1 := by
  unfold EndsAtDatasource
  simp only [hd]
  intro cause hcause
  have hprepare : Store.Relational.prepare path options =
      .ok ⟨.new path options.limits, options.persists, .empty options.encodingCacheSize⟩ := by
    simp [Store.Relational.prepare, RecencyCache.create, hpath, hpool.ne', hcache.ne']
  unfold Store.Relational.openExisting at hcause
  simp only [hprepare] at hcause
  split at hcause
  · exact .inl (Except.error.inj hcause).symm
  · next table _ _ _ => exact .inr ⟨table, (Except.error.inj hcause).symm⟩
  · cases hcause

theorem openFile_ends {path : String} (hd : s.datasource = some path) (hpath : path ≠ "") :
    EndsAtDatasource s (Store.openFile w path) := by
  unfold EndsAtDatasource
  simp only [hd]
  intro cause hcause
  unfold Store.openFile Store.openBytes at hcause
  rw [if_neg (mt String.isEmpty_iff.1 hpath)] at hcause
  split at hcause
  · exact .inl (Except.error.inj hcause).symm
  · cases hcause

theorem Settings.IsSound.store_ends (hs : s.IsSound) (w : World) :
    EndsAtDatasource s (Store.ofSettings s w).1 := by
  unfold Store.ofSettings
  cases hd : s.datasource with
  | none =>
    unfold EndsAtDatasource
    simp only [hd]
  | some path =>
    have hpath := (hs.datasource path hd).1
    cases s.resolver with
    | relational => exact (openExisting_ends hd hpath hs.poolSize hs.cacheSize).map _
    | maxMind => exact openFile_ends hd hpath

/-- The cache of locations is never what fails. -/
theorem Settings.IsSound.service (hs : s.IsSound) :
    ∃ service, Service.create s.cacheSize s.cacheEnabled = .ok service := by
  unfold Service.create
  split
  · refine ⟨⟨some (.empty s.cacheSize), {}⟩, ?_⟩
    rw [RecencyCache.create, if_neg hs.cacheSize.ne']
    rfl
  · exact ⟨_, rfl⟩

theorem Settings.IsSound.service_ends (hs : s.IsSound) (w : World) :
    EndsAtDatasource s (Service.ofSettings s w).1 := by
  obtain ⟨service, hservice⟩ := hs.service
  have hstore := hs.store_ends w
  unfold Service.ofSettings
  simp only [hservice]
  refine hstore.of_sameError fun cause => ?_
  rcases Store.ofSettings s w with ⟨_ | store, after⟩ <;> simp

theorem Settings.IsSound.build_ends (hs : s.IsSound) (session : Session) :
    EndsAtDatasource s (Session.build s session).1 := by
  obtain ⟨service, hservice⟩ := hs.service
  have hstore := hs.store_ends session.world
  unfold Session.build Session.buildInFront
  simp only [hservice]
  refine hstore.of_sameError fun cause => ?_
  rcases Store.ofSettings s session.world with ⟨_ | store, after⟩ <;> simp

end Building

/-! ## Accepted settings -/

/-- What becomes of accepted settings; `given?` is the datasource that was given last. -/
structure Settings.Accepted (given? : Option String) (s : Settings) : Prop where
  sound : s.IsSound
  /-- There is no datasource if none was given or the last one was blank, and only then. -/
  datasource : s.datasource = none ↔ ∀ value ∈ given?, IsBlank value
  service : ∀ w, EndsAtDatasource s (Service.ofSettings s w).1
  /-- A pipeline that is not running builds what the settings ask for. -/
  start : ∀ (p : Pipeline Nat) (session : Session), p.settings = s →
    (∀ running ∈ p.running, (p.start Session.build session).1 = .ok running) ∧
    (p.running = none → EndsAtDatasource s (p.start Session.build session).1)

theorem Pipeline.start_running {ι σ : Type} {p : Pipeline ι} {running : ι}
    {build : Settings → σ → Except ConfigError ι × σ} {state : σ} (h : p.running = some running) :
    (p.start build state).1 = .ok running := by
  unfold start
  simp only [h]

theorem Pipeline.start_stopped {ι σ : Type} {p : Pipeline ι}
    {build : Settings → σ → Except ConfigError ι × σ} {state : σ} (h : p.running = none) :
    (p.start build state).1 = (build p.settings state).1 := by
  unfold start
  simp only [h]
  rcases build p.settings state with ⟨_ | _, _⟩ <;> rfl

theorem Settings.IsSound.accepted {s : Settings} {given? : Option String} (hs : s.IsSound)
    (hgiven : s.datasource = given?.bind readDatasource) : s.Accepted given? where
  sound := hs
  datasource := by
    rw [hgiven, Option.bind_eq_none_iff]
    exact forall₂_congr fun _ _ => readDatasource_eq_none_iff
  service := hs.service_ends
  start p session hp := by
    refine ⟨fun _ hrunning => Pipeline.start_running hrunning, fun hstopped => ?_⟩
    rw [Pipeline.start_stopped hstopped, hp]
    exact hs.build_ends session

theorem Settings.accepted_ofPairs {s : Settings} {pairs : List (String × String)}
    (h : (ofPairs pairs).1 = .ok s) : s.Accepted (last? .datasource pairs) := by
  refine (isSound_standard.setAll h).accepted ?_
  rw [datasource_setAll h]
  cases last? .datasource pairs <;> rfl

namespace Configuration

variable {environment : String → Option String} {c : Configuration}

/-- The pairs of some variables that are set. -/
def pairsOf (environment : String → Option String) (named : List (String × Settings.Key)) :
    List (String × String) :=
  named.filterMap fun variable_ =>
    (environment variable_.1).map fun value => (variable_.2.name, value)

theorem lookup_pairsOf_cons {name variable_ : String} {key : Settings.Key}
    {rest : List (String × Settings.Key)} :
    (pairsOf environment ((variable_, key) :: rest)).lookup name =
      if name = key.name then (environment variable_).or ((pairsOf environment rest).lookup name)
      else (pairsOf environment rest).lookup name := by
  unfold pairsOf
  rw [List.filterMap_cons]
  cases environment variable_ with
  | none => simp
  | some value =>
    by_cases h : name = key.name
    · simp [h]
    · have hne : (name == key.name) = false := beq_eq_false_iff_ne.2 h
      simp [List.lookup_cons, h, hne]

/-- One variable only stands for the datasource. -/
theorem last?_pairs (environment : String → Option String) :
    Settings.last? .datasource (pairs environment) = environment "GEOENRICH_DATASOURCE" := by
  have hpairs : (pairs environment).reverse = pairsOf environment settingVariables.reverse :=
    List.filterMap_reverse.symm
  have hnil : pairsOf environment [] = [] := rfl
  rw [Settings.last?, hpairs, settingVariables]
  simp [lookup_pairsOf_cons, hnil, Settings.Key.name]

theorem readWorkers_pos {value? : Option String} {workers : Nat}
    (h : (readWorkers value?).1 = .ok workers) : 0 < workers := by
  cases value? with
  | none => exact Except.ok.inj h ▸ by decide
  | some value => exact Settings.readSize_pos (by decide) h

theorem load_ok (h : (load environment).1 = .ok c) :
    (Settings.ofPairs (pairs environment)).1 = .ok c.settings ∧
    (readWorkers (environment workersVariable)).1 = .ok c.workers := by
  unfold load at h
  rcases hs : Settings.ofPairs (pairs environment) with ⟨_ | s, notices⟩ <;> simp only [hs] at h
  · cases h
  rcases hw : readWorkers (environment workersVariable) with ⟨_ | workers, more⟩ <;>
    simp only [hw] at h
  · cases h
  · obtain rfl := Except.ok.inj h
    exact ⟨rfl, rfl⟩

theorem accepted_load (h : (load environment).1 = .ok c) :
    0 < c.workers ∧ c.settings.Accepted (environment "GEOENRICH_DATASOURCE") :=
  ⟨readWorkers_pos (load_ok h).2, last?_pairs environment ▸
    Settings.accepted_ofPairs (load_ok h).1⟩

end Configuration

/-- Whatever pairs or environment are accepted, the sizes are positive and a datasource is trimmed
text that is not empty; so nothing but the datasource keeps a resolver from starting, whatever the
world is like. -/
theorem accepted_fails_at_datasource_only :
    (∀ pairs s, (Settings.ofPairs pairs).1 = .ok s →
      s.Accepted (Settings.last? .datasource pairs)) ∧
    (∀ environment c, (Configuration.load environment).1 = .ok c →
      0 < c.workers ∧ c.settings.Accepted (environment "GEOENRICH_DATASOURCE")) :=
  ⟨fun _ _ h => Settings.accepted_ofPairs h, fun _ _ h => Configuration.accepted_load h⟩

/-- Pairs whose last datasource is blank are accepted and hold none; an environment with a
datasource is accepted and holds it trimmed. -/
theorem accepted_fails_at_datasource_only_given :
    (Settings.ofPairs [("datasource", "geo.db"), ("cacheSize", "many"), ("datasource", " ")]).1 =
      .ok Settings.standard ∧
    Settings.standard.Accepted (some " ") ∧
    (Configuration.load fun name =>
      if name = "GEOENRICH_DATASOURCE" then some " geo.db " else none).1 =
      .ok ⟨{ Settings.standard with datasource := some "geo.db" }, 8, "ip", false⟩ ∧
    { Settings.standard with datasource := some "geo.db" }.Accepted (some " geo.db ") := by
  have hpairs : (Settings.ofPairs
      [("datasource", "geo.db"), ("cacheSize", "many"), ("datasource", " ")]).1 =
      .ok Settings.standard := by decide +kernel
  have henvironment : (Configuration.load fun name =>
      if name = "GEOENRICH_DATASOURCE" then some " geo.db " else none).1 =
      .ok ⟨{ Settings.standard with datasource := some "geo.db" }, 8, "ip", false⟩ := by
    decide +kernel
  have hlast : Settings.last? .datasource
      [("datasource", "geo.db"), ("cacheSize", "many"), ("datasource", " ")] = some " " := rfl
  have haccepted := accepted_fails_at_datasource_only.1 _ _ hpairs
  have hloaded := (accepted_fails_at_datasource_only.2 _ _ henvironment).2
  rw [hlast] at haccepted
  rw [if_pos rfl] at hloaded
  exact ⟨hpairs, haccepted, henvironment, hloaded⟩

end Gazetteer

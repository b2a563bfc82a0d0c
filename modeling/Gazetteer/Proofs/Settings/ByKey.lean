/-
Gazetteer.Proofs.Settings.ByKey — pairs fall apart by their keys.

A pair is bad by itself or not, whatever stands around it. The first bad pair is what
reading fails on. Where there is none, what the settings hold under a key is what the
last pair of that key says, or the default if it cannot be read, and no pair of another
key has a part in it. So only the order of pairs of one key counts. The environment has
one variable for a key, so there any order will do.
-/
import Gazetteer.Proofs.Recency
import Gazetteer.Proofs.Settings.Accepted

namespace Gazetteer

namespace Settings

variable {s later : Settings} {key value name : String} {pairs others : List (String × String)}
  {cause : ConfigError}

/-! ## What a value says -/

/-- The whole number of 64 bits that a value holds. -/
def size? (value : String) : Option Int := Text.int64? (Text.trimChars value.toList)

/-- The words for a switch, in lower case. -/
def switchWords : List (String × Bool) :=
  [("true", true), ("1", true), ("false", false), ("0", false)]

def switch? (value : String) : Option Bool := switchWords.lookup (Text.trim value).toLower

/-- The names of the resolvers, in lower case. -/
def resolverNames : List (String × ResolverKind) :=
  [("rdbms", .relational), ("sqlite", .relational), ("maxmind", .maxMind), ("mmdb", .maxMind)]

def resolver? (value : String) : Option ResolverKind :=
  resolverNames.lookup (Text.trim value).toLower

/-- Something that settings hold under a key. -/
inductive Held where
  | resolver (kind : ResolverKind)
  | datasource (path : Option String)
  | size (size : Nat)
  | switch (isOn : Bool)
  deriving DecidableEq, Repr

/-- What settings hold under a key. -/
def get (s : Settings) : Key → Held
  | .resolver => .resolver s.resolver
  | .datasource => .datasource s.datasource
  | .cacheSize => .size s.cacheSize
  | .cacheEnabled => .switch s.cacheEnabled
  | .persists => .switch s.persists
  | .poolSize => .size s.poolSize

theorem ext_get (h : ∀ key, s.get key = later.get key) : s = later := by
  obtain ⟨⟩ := s
  obtain ⟨⟩ := later
  simp only [mk.injEq]
  exact ⟨Held.resolver.inj (h .resolver), Held.size.inj (h .cacheSize),
    Held.switch.inj (h .cacheEnabled), Held.switch.inj (h .persists),
    Held.datasource.inj (h .datasource), Held.size.inj (h .poolSize)⟩

/-- What a value stands for under a key, if it can be read. -/
def Key.read? (key : Key) (value : String) : Option Held :=
  match key with
  | resolver => (resolver? value).map .resolver
  | datasource => some (.datasource (readDatasource value))
  | cacheSize | poolSize => (size? value).map fun n => .size n.toNat
  | cacheEnabled | persists => (switch? value).map .switch

/-- The error of a pair that is bad by itself: a size that is not positive, or a resolver that does
not exist. -/
def fault? (pair : String × String) : Option ConfigError :=
  match Key.ofName? pair.1 with
  | some .cacheSize => ((size? pair.2).filter (· ≤ 0)).map .invalidCacheSize
  | some .poolSize => ((size? pair.2).filter (· ≤ 0)).map .invalidPoolSize
  | some .resolver => if (resolver? pair.2).isSome then none else some (.unknownResolver pair.2)
  | some .datasource | some .cacheEnabled | some .persists | none => none

/-- The warning about a pair with a size or a switch that cannot be read. -/
def warning? (pair : String × String) : Option Notice :=
  match Key.ofName? pair.1 with
  | some .cacheSize =>
    if (size? pair.2).isSome then none else some (.notInteger pair.2 pair.1 defaultCacheSize)
  | some .poolSize =>
    if (size? pair.2).isSome then none else some (.notInteger pair.2 pair.1 defaultPoolSize)
  | some .cacheEnabled | some .persists =>
    if (switch? pair.2).isSome then none else some (.notBoolean pair.2 pair.1)
  | some .resolver | some .datasource | none => none

/-! ## One value -/

theorem readSize_eq (key value : String) (fallback : Nat) (invalid : Int → ConfigError) :
    readSize key value fallback invalid =
      (size? value).elim (.ok fallback, [.notInteger value key fallback]) fun n =>
        if n ≤ 0 then (.error (invalid n), []) else (.ok n.toNat, []) := by
  unfold readSize size?
  cases Text.int64? (Text.trimChars value.toList) with
  | none => rfl
  | some n =>
    dsimp only [Option.elim_some]
    by_cases hn : 0 < n
    · rw [if_pos hn, if_neg (Int.not_le.2 hn)]
    · rw [if_neg hn, if_pos (Int.not_lt.1 hn)]

theorem readSwitch_eq (key value : String) :
    readSwitch key value =
      ((switch? value).getD true,
        if (switch? value).isSome then [] else [.notBoolean value key]) := by
  unfold readSwitch switch? switchWords
  simp only [Recency.lookup_cons_eq, List.lookup_nil]
  generalize (Text.trim value).toLower = word
  by_cases h1 : word = "true"
  · simp [h1]
  by_cases h2 : word = "1"
  · simp [h2]
  by_cases h3 : word = "false"
  · simp [h3]
  by_cases h4 : word = "0"
  · simp [h4]
  · simp [h1, h2, h3, h4]

theorem ofName_eq (value : String) :
    ResolverKind.ofName value =
      (resolver? value).elim (.error (.unknownResolver value)) .ok := by
  unfold ResolverKind.ofName resolver? resolverNames
  simp only [Recency.lookup_cons_eq, List.lookup_nil]
  generalize (Text.trim value).toLower = word
  by_cases h1 : word = "rdbms"
  · simp [h1]
  by_cases h2 : word = "sqlite"
  · simp [h2]
  by_cases h3 : word = "maxmind"
  · simp [h3]
  by_cases h4 : word = "mmdb"
  · simp [h4]
  · simp [h1, h2, h3, h4]

theorem readSize_error_iff {fallback : Nat} {invalid : Int → ConfigError} :
    (readSize key value fallback invalid).1 = .error cause ↔
      ((size? value).filter (· ≤ 0)).map invalid = some cause := by
  rw [readSize_eq]
  rcases size? value with _ | n
  · simp
  · by_cases hn : n ≤ 0 <;> simp [hn]

theorem readSize_notices (key value : String) (fallback : Nat) (invalid : Int → ConfigError) :
    (readSize key value fallback invalid).2 =
      if (size? value).isSome then [] else [.notInteger value key fallback] := by
  rw [readSize_eq]
  rcases size? value with _ | n
  · rfl
  · by_cases hn : n ≤ 0 <;> simp [hn]

theorem readSize_ok {fallback n : Nat} {invalid : Int → ConfigError}
    (h : (readSize key value fallback invalid).1 = .ok n) :
    n = ((size? value).map Int.toNat).getD fallback := by
  rw [readSize_eq] at h
  cases hs : size? value with
  | none =>
    rw [hs] at h
    exact (Except.ok.inj h).symm
  | some size =>
    rw [hs, Option.elim_some] at h
    split at h
    · cases h
    · exact (Except.ok.inj h).symm

/-! ## One pair -/

theorem map_error_iff {α β : Type} {f : α → β} {result : Except ConfigError α} :
    result.map f = .error cause ↔ result = .error cause := by
  cases result <;> simp [Except.map]

/-- A pair is refused exactly if it is bad by itself. -/
theorem set_error_iff : (s.set key value).1 = .error cause ↔ fault? (key, value) = some cause := by
  unfold Settings.set fault?
  dsimp only
  rcases Key.ofName? key with _ | named
  · simp
  cases named with
  | resolver =>
    dsimp only
    rw [map_error_iff, ofName_eq]
    cases resolver? value <;> simp
  | cacheSize => exact map_error_iff.trans readSize_error_iff
  | poolSize => exact map_error_iff.trans readSize_error_iff
  | datasource | cacheEnabled | persists => simp

/-- Nothing is remarked about a pair but that it cannot be read. -/
theorem set_notices (s : Settings) (key value : String) :
    (s.set key value).2 = (warning? (key, value)).toList := by
  unfold Settings.set warning?
  dsimp only
  rcases Key.ofName? key with _ | named
  · rfl
  cases named with
  | resolver | datasource => rfl
  | cacheSize =>
    dsimp only
    rw [readSize_notices]
    split <;> rfl
  | poolSize =>
    dsimp only
    rw [readSize_notices]
    split <;> rfl
  | cacheEnabled =>
    dsimp only
    rw [readSwitch_eq]
    dsimp only
    split <;> rfl
  | persists =>
    dsimp only
    rw [readSwitch_eq]
    dsimp only
    split <;> rfl

/-- A pair leaves alone what the settings hold under other keys than its own. -/
theorem Sets.get_of_ne {other : Key} (h : s.Sets key value later)
    (hne : Key.ofName? key ≠ some other) : later.get other = s.get other := by
  cases h with
  | unknown => rfl
  | resolver hk => cases other <;> first | exact absurd hk hne | rw [get, get]
  | datasource hk => cases other <;> first | exact absurd hk hne | rw [get, get]
  | cacheSize hk => cases other <;> first | exact absurd hk hne | rw [get, get]
  | poolSize hk => cases other <;> first | exact absurd hk hne | rw [get, get]
  | cacheEnabled hk => cases other <;> first | exact absurd hk hne | rw [get, get]
  | persists hk => cases other <;> first | exact absurd hk hne | rw [get, get]

/-- Under its own key, settings hold what the value of a pair stands for, or the default if it cannot
be read. -/
theorem Sets.get_of_key {named : Key} (h : s.Sets key value later)
    (hk : Key.ofName? key = some named) :
    later.get named = (named.read? value).getD (standard.get named) := by
  cases h with
  | unknown hother => cases hother.symm.trans hk
  | resolver hother reads =>
    obtain rfl := Option.some.inj (hother.symm.trans hk)
    rw [ofName_eq] at reads
    rw [Key.read?, get]
    cases hr : resolver? value with
    | none =>
      rw [hr] at reads
      cases reads
    | some kind =>
      rw [hr] at reads
      exact congrArg Held.resolver (Except.ok.inj reads).symm
  | datasource hother =>
    obtain rfl := Option.some.inj (hother.symm.trans hk)
    rfl
  | cacheSize hother reads =>
    obtain rfl := Option.some.inj (hother.symm.trans hk)
    rw [get, readSize_ok reads, Key.read?]
    cases size? value <;> rfl
  | poolSize hother reads =>
    obtain rfl := Option.some.inj (hother.symm.trans hk)
    rw [get, readSize_ok reads, Key.read?]
    cases size? value <;> rfl
  | cacheEnabled hother =>
    obtain rfl := Option.some.inj (hother.symm.trans hk)
    rw [get, readSwitch_eq, Key.read?]
    cases switch? value <;> rfl
  | persists hother =>
    obtain rfl := Option.some.inj (hother.symm.trans hk)
    rw [get, readSwitch_eq, Key.read?]
    cases switch? value <;> rfl

/-! ## All pairs -/

theorem fault?_eq_none_of_ok {notices : List Notice} (h : s.set key value = (.ok later, notices)) :
    fault? (key, value) = none := by
  cases hfault : fault? (key, value) with
  | none => rfl
  | some cause =>
    have herror := set_error_iff (s := s).2 hfault
    rw [h] at herror
    cases herror

/-- What is bad has been read. -/
theorem warning?_eq_none_of_fault {pair : String × String} (h : fault? pair = some cause) :
    warning? pair = none := by
  unfold fault? at h
  unfold warning?
  rcases hnamed : Key.ofName? pair.1 with _ | named
  · rfl
  rw [hnamed] at h
  have hread {invalid : Int → ConfigError} (hsize : ((size? pair.2).filter (· ≤ 0)).map invalid =
      some cause) : (size? pair.2).isSome = true := by
    obtain ⟨n, hn, -⟩ := Option.map_eq_some_iff.1 hsize
    rw [(Option.filter_eq_some_iff.1 hn).1, Option.isSome_some]
  cases named with
  | resolver | datasource => rfl
  | cacheEnabled | persists => cases h
  | cacheSize => exact if_pos (hread h)
  | poolSize => exact if_pos (hread h)

/-- Reading fails on the first bad pair. -/
theorem setAll_error_iff :
    (s.setAll pairs).1 = .error cause ↔ pairs.findSome? fault? = some cause := by
  induction pairs generalizing s with
  | nil => simp [setAll]
  | cons pair pairs ih =>
    obtain ⟨key, value⟩ := pair
    unfold setAll
    rcases hset : s.set key value with ⟨other | mid, notices⟩
    · have hfault : fault? (key, value) = some other := set_error_iff.1 (by rw [hset])
      simp [hfault]
    · rw [List.findSome?_cons, fault?_eq_none_of_ok hset]
      exact ih

/-- The warnings are about the pairs before the first bad one, in their order. -/
theorem setAll_notices (s : Settings) (pairs : List (String × String)) :
    (s.setAll pairs).2 =
      (pairs.takeWhile fun pair => (fault? pair).isNone).filterMap warning? := by
  induction pairs generalizing s with
  | nil => rfl
  | cons pair pairs ih =>
    obtain ⟨key, value⟩ := pair
    have hnotices := set_notices s key value
    unfold setAll
    rcases hset : s.set key value with ⟨cause | mid, notices⟩
    · have hfault : fault? (key, value) = some cause := set_error_iff.1 (by rw [hset])
      rw [hset, warning?_eq_none_of_fault hfault] at hnotices
      obtain rfl : notices = [] := hnotices
      simp [hfault]
    · rw [hset] at hnotices
      obtain rfl : notices = _ := hnotices
      have hnone := fault?_eq_none_of_ok hset
      simp only [List.takeWhile_cons, hnone, Option.isNone_none, if_true, List.filterMap_cons, ih]
      cases warning? (key, value) <;> rfl

/-- Under a key, settings hold what the last pair of the key says. -/
theorem get_setAll (h : (s.setAll pairs).1 = .ok later) (key : Key) :
    later.get key = (last? key pairs).elim (s.get key) fun value =>
      (key.read? value).getD (standard.get key) := by
  induction pairs generalizing s with
  | nil => exact Except.ok.inj h ▸ rfl
  | cons pair pairs ih =>
    obtain ⟨name, value⟩ := pair
    obtain ⟨mid, hsets, hrest⟩ := setAll_cons_ok h
    rw [ih hrest, last?, last?, List.reverse_cons, List.lookup_append, Recency.lookup_cons_eq,
      List.lookup_nil]
    cases pairs.reverse.lookup key.name with
    | some last => rfl
    | none =>
      by_cases hk : Key.ofName? name = some key
      · rw [hsets.get_of_key hk, if_pos (Key.ofName?_eq_some_iff.1 hk).symm]
        rfl
      · rw [if_neg fun heq => hk (Key.ofName?_eq_some_iff.2 heq.symm), Option.elim_none,
          hsets.get_of_ne hk]
        rfl

theorem ofPairs_isOk (h : pairs.findSome? fault? = none) : ∃ s, (ofPairs pairs).1 = .ok s := by
  cases hresult : (ofPairs pairs).1 with
  | ok s => exact ⟨s, rfl⟩
  | error cause => cases h.symm.trans (setAll_error_iff.1 hresult)

/-- The last pair of a key, alone. -/
def alone (key : Key) (pairs : List (String × String)) : List (String × String) :=
  (last? key pairs).toList.map (key.name, ·)

theorem last?_alone (key : Key) (pairs : List (String × String)) :
    last? key (alone key pairs) = last? key pairs := by
  unfold alone
  cases last? key pairs with
  | none => rfl
  | some value => simp [last?]

theorem mem_of_mem_alone {key : Key} {pair : String × String} (h : pair ∈ alone key pairs) :
    pair ∈ pairs := by
  obtain ⟨value, hvalue, rfl⟩ := List.mem_map.1 h
  obtain ⟨before, after, heq, -⟩ := List.lookup_eq_some_iff.1 (Option.mem_toList.1 hvalue)
  rw [← List.mem_reverse, heq]
  exact List.mem_append_right _ List.mem_cons_self

/-! ## Another order -/

/-- The pairs of each key are the same, in the same order. -/
def AgreeByKey (pairs others : List (String × String)) : Prop :=
  ∀ name, others.filter (·.1 == name) = pairs.filter (·.1 == name)

theorem AgreeByKey.mem_iff (h : AgreeByKey pairs others) (pair : String × String) :
    pair ∈ others ↔ pair ∈ pairs := by
  have hpairs := congrArg (pair ∈ ·) (h pair.1)
  simpa using hpairs

theorem last?_filter (key : Key) (pairs : List (String × String)) :
    last? key (pairs.filter (·.1 == key.name)) = last? key pairs := by
  unfold last?
  rw [← List.filter_reverse]
  generalize pairs.reverse = records
  induction records with
  | nil => rfl
  | cons record records ih =>
    obtain ⟨name, value⟩ := record
    rw [List.filter_cons, Recency.lookup_cons_eq]
    by_cases hk : key.name = name
    · simp [hk]
    · have hne : ¬ name = key.name := fun heq => hk heq.symm
      simp [hk, hne, ih]

theorem AgreeByKey.last?_eq (h : AgreeByKey pairs others) (key : Key) :
    last? key others = last? key pairs := by
  rw [← last?_filter, h, last?_filter]

/-- A bad pair is bad wherever it stands, and what is held under a key is a matter of its pairs. -/
theorem AgreeByKey.ofPairs_eq (h : AgreeByKey pairs others) :
    (ofPairs others).1.toOption = (ofPairs pairs).1.toOption := by
  have hbad : pairs.findSome? fault? = none ↔ others.findSome? fault? = none := by
    simp only [List.findSome?_eq_none_iff, h.mem_iff]
  cases hp : pairs.findSome? fault? with
  | some cause =>
    obtain ⟨other, ho⟩ := Option.ne_none_iff_exists'.1 fun hnone => by simp [hbad.2 hnone] at hp
    rw [show (ofPairs pairs).1 = .error cause from setAll_error_iff.2 hp,
      show (ofPairs others).1 = .error other from setAll_error_iff.2 ho]
    rfl
  | none =>
    obtain ⟨s, hs⟩ := ofPairs_isOk hp
    obtain ⟨later, hlater⟩ := ofPairs_isOk (hbad.1 hp)
    have hsame : later = s := ext_get fun key => by
      rw [get_setAll hlater, get_setAll hs, h.last?_eq]
    rw [hs, hlater, hsame]

theorem alone_isOk (h : (ofPairs pairs).1 = .ok s) (key : Key) :
    ∃ single, (ofPairs (alone key pairs)).1 = .ok single := by
  refine ofPairs_isOk (List.findSome?_eq_none_iff.2 fun pair hm => ?_)
  cases hfault : pairs.findSome? fault? with
  | none => exact List.findSome?_eq_none_iff.1 hfault pair (mem_of_mem_alone hm)
  | some cause => cases h.symm.trans (setAll_error_iff.2 hfault)

theorem eq_of_perm_of_length_le_one {α : Type} {xs ys : List α} (h : xs.Perm ys)
    (hle : ys.length ≤ 1) : xs = ys := by
  match ys with
  | [] => exact h.eq_nil
  | [_] => exact h.eq_singleton
  | _ :: _ :: _ => simp at hle

/-- Where no two pairs have the same key, any order will do. -/
theorem agreeByKey_of_perm (hperm : others.Perm pairs) (hnodup : (pairs.map (·.1)).Nodup) :
    AgreeByKey pairs others := by
  intro name
  have hcount := List.nodup_iff_count_le_one.1 hnodup name
  rw [List.count, List.countP_map, List.countP_eq_length_filter] at hcount
  exact eq_of_perm_of_length_le_one (hperm.filter _) hcount

/-- What some pairs come to is a matter of the pairs of each key. -/
structure ReadsByKey (pairs : List (String × String)) : Prop where
  /-- Reading fails if there is a bad pair, and only then. -/
  fails : (∃ cause, (ofPairs pairs).1 = .error cause) ↔ ∃ pair ∈ pairs, (fault? pair).isSome
  /-- The error is that of the first bad pair. -/
  error : ∀ cause, (ofPairs pairs).1 = .error cause ↔
    ∃ before pair after, pairs = before ++ pair :: after ∧ fault? pair = some cause ∧
      ∀ earlier ∈ before, fault? earlier = none
  /-- What is held under a key is what the last pair of the key says; the default, if there is none or
  if it cannot be read. -/
  field : ∀ s, (ofPairs pairs).1 = .ok s → ∀ key,
    s.get key = ((last? key pairs).bind key.read?).getD (standard.get key)
  /-- That is what this pair alone gives. -/
  single : ∀ s, (ofPairs pairs).1 = .ok s → ∀ key, ∃ other,
    (ofPairs (alone key pairs)).1 = .ok other ∧ s.get key = other.get key
  /-- There is one warning for each pair before the first bad one that cannot be read. -/
  warnings : (ofPairs pairs).2 =
    (pairs.takeWhile fun pair => (fault? pair).isNone).filterMap warning?
  /-- Pairs of different keys may change places. -/
  reordered : ∀ others, AgreeByKey pairs others →
    (ofPairs others).1.toOption = (ofPairs pairs).1.toOption

theorem readsByKey (pairs : List (String × String)) : ReadsByKey pairs where
  fails := by
    rw [← List.findSome?_isSome_iff, Option.isSome_iff_exists]
    exact exists_congr fun cause => setAll_error_iff
  error cause := setAll_error_iff.trans List.findSome?_eq_some_iff
  field s h key := by
    rw [get_setAll h]
    cases last? key pairs <;> rfl
  single s h key := by
    obtain ⟨other, hother⟩ := alone_isOk h key
    refine ⟨other, hother, ?_⟩
    rw [get_setAll h, get_setAll hother, last?_alone]
  warnings := setAll_notices standard pairs
  reordered others h := h.ofPairs_eq

end Settings

namespace Configuration

variable {environment : String → Option String} {c : Configuration}

/-- The keys of the variables that are set are among those of all variables. -/
theorem keys_pairsOf (environment : String → Option String)
    (named : List (String × Settings.Key)) :
    ((pairsOf environment named).map (·.1)).Sublist (named.map (·.2.name)) := by
  induction named with
  | nil => exact List.Sublist.slnil
  | cons variable_ named ih =>
    unfold pairsOf at *
    rw [List.filterMap_cons]
    cases environment variable_.1 with
    | none => exact ih.cons _
    | some value => exact ih.cons_cons _

/-- No two variables stand for the same key. -/
theorem nodup_keys_pairs (environment : String → Option String) :
    ((pairs environment).map (·.1)).Nodup :=
  (keys_pairsOf environment settingVariables).nodup (by decide)

theorem settings_of_perm {given : List (String × String)} (h : (load environment).1 = .ok c)
    (hperm : given.Perm (pairs environment)) : (Settings.ofPairs given).1 = .ok c.settings := by
  have heq := (Settings.agreeByKey_of_perm hperm (nodup_keys_pairs environment)).ofPairs_eq
  rw [(load_ok h).1] at heq
  cases hgiven : (Settings.ofPairs given).1 with
  | error cause =>
    rw [hgiven] at heq
    cases heq
  | ok s =>
    rw [hgiven] at heq
    exact congrArg Except.ok (Option.some.inj heq)

end Configuration

/-- **Pairs are read by their keys.** Reading some pairs fails if one of them is bad by itself, and
then on the first of these. Otherwise the settings hold under each key what the last pair of that
key gives alone. Warnings are about single pairs, in their order. So pairs of different keys may
change places; and where the environment is accepted, the pairs of its variables give the same
settings in any order. -/
theorem pairs_read_by_key :
    (∀ pairs, Settings.ReadsByKey pairs) ∧
      ∀ environment c, (Configuration.load environment).1 = .ok c →
        ∀ given : List (String × String), given.Perm (Configuration.pairs environment) →
          (Settings.ofPairs given).1 = .ok c.settings :=
  ⟨Settings.readsByKey, fun _ _ h _ => Configuration.settings_of_perm h⟩

/-- A good pair does not make up for a bad one before it, a size that cannot be read takes the place
of one that could, and the variables come in another order than they are read in. -/
theorem pairs_read_by_key_mixed :
    Settings.ofPairs [("cacheSize", "many"), ("resolver", "MMDB"), ("poolSize", "0"),
        ("poolSize", "4"), ("resolver", "ldap")] =
      (.error (.invalidPoolSize 0), [.notInteger "many" "cacheSize" 10000]) ∧
    (∃ s, (Settings.ofPairs [("cacheSize", "12"), ("poolSize", " +4"), ("cacheSize", "many")]).1 =
      .ok s ∧ s.cacheSize = 10000 ∧ s.poolSize = 4) ∧
    (Configuration.load fun name =>
      if name = "GEOENRICH_RESOLVER" then some "mmdb"
      else if name = "GEOENRICH_POOL_SIZE" then some "3" else none).1 =
      .ok ⟨{ Settings.standard with resolver := .maxMind, poolSize := 3 }, 8, "ip", false⟩ ∧
    (Settings.ofPairs [("poolSize", "3"), ("resolver", "mmdb")]).1 =
      .ok { Settings.standard with resolver := .maxMind, poolSize := 3 } := by
  obtain ⟨hreads, hload⟩ := pairs_read_by_key
  refine ⟨Prod.ext ?_ ?_, ?_, ?_⟩
  · exact ((hreads _).error (.invalidPoolSize 0)).2
      ⟨[("cacheSize", "many"), ("resolver", "MMDB")], ("poolSize", "0"), _, rfl,
        by decide +kernel, by decide +kernel⟩
  · rw [(hreads _).warnings]
    decide +kernel
  · obtain ⟨s, hs⟩ : ∃ s, (Settings.ofPairs
        [("cacheSize", "12"), ("poolSize", " +4"), ("cacheSize", "many")]).1 = .ok s :=
      Settings.ofPairs_isOk (by decide +kernel)
    have hfield := (hreads _).field s hs
    refine ⟨s, hs, Settings.Held.size.inj ((hfield .cacheSize).trans ?_),
      Settings.Held.size.inj ((hfield .poolSize).trans ?_)⟩
    · decide +kernel
    · decide +kernel
  · have haccepted : (Configuration.load fun name =>
        if name = "GEOENRICH_RESOLVER" then some "mmdb"
        else if name = "GEOENRICH_POOL_SIZE" then some "3" else none).1 =
        .ok ⟨{ Settings.standard with resolver := .maxMind, poolSize := 3 }, 8, "ip", false⟩ := by
      decide +kernel
    refine ⟨haccepted, hload _ _ haccepted _ ?_⟩
    exact (List.Perm.swap ("resolver", "mmdb") ("poolSize", "3") [])

end Gazetteer

/-
Gazetteer.Proofs.Settings.Sizes — a size is read exactly or not at all.

An integer of 64 bits, with white space around it or none, gives the size that it says
if it is positive, and else the error of the setting with that very number. Any other
value gives the default and one warning, which shows the value as it came: what is no
integer, and the integers on either side of the 64-bit range. So no size is ever
another number than the one that is written, the default apart.
-/
import Gazetteer.Proofs.Settings.ByKey
import Gazetteer.Proofs.Text.Integer

namespace Gazetteer

namespace Settings

variable {key value : String} {fallback : Nat} {invalid : Int → ConfigError} {n : Int}

/-! ## Values that are integers -/

/-- A value is an integer with white space around it or none, however great. -/
def Writes (value : String) (n : Int) : Prop :=
  ∃ text, Text.TrimsTo value.toList text ∧ Text.IsIntegerOf text n

/-- A number fits 64 bits. -/
def Fits (n : Int) : Prop := -0x8000000000000000 ≤ n ∧ n < 0x8000000000000000

instance (n : Int) : Decidable (Fits n) :=
  inferInstanceAs (Decidable (-0x8000000000000000 ≤ n ∧ n < 0x8000000000000000))

theorem writes_iff : Writes value n ↔ Text.signed? (Text.trimChars value.toList) = some n := by
  unfold Writes
  simp only [Text.trimsTo_iff, exists_eq_left', Text.signed?_eq_some_iff]

theorem writes_unique {m : Int} (h : Writes value n) (hm : Writes value m) : m = n := by
  rw [writes_iff] at h hm
  exact Option.some.inj (hm.symm.trans h)

theorem size?_eq_some_iff : size? value = some n ↔ Writes value n ∧ Fits n := by
  rw [writes_iff, size?, Text.int64?_eq_some_iff, Text.signed?_eq_some_iff]
  rfl

theorem size?_eq_none_iff : size? value = none ↔ ∀ n, Writes value n → ¬ Fits n := by
  rw [Option.eq_none_iff_forall_ne_some]
  exact forall_congr' fun n => (not_congr size?_eq_some_iff).trans not_and

/-! ## What is read -/

/-- What comes of a value that is to be a size, under a key with a default and an error of its
own. -/
structure ReadsExactly (key value : String) (fallback : Nat) (invalid : Int → ConfigError)
    (read : Except ConfigError Nat × List Notice) : Prop where
  positive : ∀ n, Writes value n → Fits n → 0 < n →
    ∃ size : Nat, (size : Int) = n ∧ read = (.ok size, [])
  notPositive : ∀ n, Writes value n → Fits n → n ≤ 0 → read = (.error (invalid n), [])
  /-- The warning shows the value untrimmed. -/
  other : (∀ n, Writes value n → ¬ Fits n) → ∃ notice,
    read = (.ok fallback, [notice]) ∧ notice.severity = .warning ∧
      notice.text = "the config '" ++ value ++ "' provided in '" ++ key
        ++ "' is not a valid integer, using the default '" ++ toString fallback ++ "'"
  /-- Whatever integer is written, in range or not, no other size is read but the default. -/
  never : ∀ n size, Writes value n → read.1 = .ok size → (size : Int) = n ∨ size = fallback

theorem readSize_reads (key value : String) (fallback : Nat) (invalid : Int → ConfigError) :
    ReadsExactly key value fallback invalid (readSize key value fallback invalid) where
  positive n hw hf hpos := by
    rw [readSize_eq, size?_eq_some_iff.2 ⟨hw, hf⟩, Option.elim_some, if_neg (Int.not_le.2 hpos)]
    exact ⟨n.toNat, Int.toNat_of_nonneg (Int.le_of_lt hpos), rfl⟩
  notPositive n hw hf hle := by
    rw [readSize_eq, size?_eq_some_iff.2 ⟨hw, hf⟩, Option.elim_some, if_pos hle]
  other hnone := by
    rw [readSize_eq, size?_eq_none_iff.2 hnone, Option.elim_none]
    exact ⟨_, rfl, rfl, rfl⟩
  never n size hw hread := by
    rw [readSize_eq] at hread
    cases hs : size? value with
    | none =>
      rw [hs] at hread
      exact .inr (Except.ok.inj hread).symm
    | some m =>
      obtain rfl := writes_unique hw (size?_eq_some_iff.1 hs).1
      rw [hs, Option.elim_some] at hread
      split at hread
      · cases hread
      · next hpos =>
        obtain rfl := Except.ok.inj hread
        exact .inl (Int.toNat_of_nonneg (Int.le_of_lt (Int.not_le.1 hpos)))

theorem set_cacheSize (s : Settings) (value : String) :
    s.set "cacheSize" value =
      ((readSize "cacheSize" value 10000 .invalidCacheSize).1.map fun size =>
          { s with cacheSize := size },
        (readSize "cacheSize" value 10000 .invalidCacheSize).2) := by
  have hnamed : Key.ofName? "cacheSize" = some .cacheSize := Key.ofName?_eq_some_iff.2 rfl
  unfold Settings.set
  rw [hnamed]
  rfl

theorem set_poolSize (s : Settings) (value : String) :
    s.set "poolSize" value =
      ((readSize "poolSize" value 8 .invalidPoolSize).1.map fun size => { s with poolSize := size },
        (readSize "poolSize" value 8 .invalidPoolSize).2) := by
  have hnamed : Key.ofName? "poolSize" = some .poolSize := Key.ofName?_eq_some_iff.2 rfl
  unfold Settings.set
  rw [hnamed]
  rfl

/-- **Sizes are read exactly or not at all**, under whatever key, and so are the sizes of the cache
and of the pool and the number of workers. It makes no difference whether an integer is read as a
whole or digit by digit in 64 bits. -/
theorem sizes_read_exactly :
    (∀ key value fallback invalid,
      ReadsExactly key value fallback invalid (readSize key value fallback invalid)) ∧
    (∀ (s : Settings) (value : String), ∃ read,
      ReadsExactly "cacheSize" value 10000 .invalidCacheSize read ∧
        s.set "cacheSize" value =
          (read.1.map fun size => { s with cacheSize := size }, read.2)) ∧
    (∀ (s : Settings) (value : String), ∃ read,
      ReadsExactly "poolSize" value 8 .invalidPoolSize read ∧
        s.set "poolSize" value = (read.1.map fun size => { s with poolSize := size }, read.2)) ∧
    (∀ value, ReadsExactly "GEOENRICH_WORKERS" value 8 .invalidWorkers
      (Configuration.readWorkers (some value))) ∧
    ∀ text, Text.boundedInt64? text = Text.int64? text :=
  ⟨readSize_reads, fun s value => ⟨_, readSize_reads _ _ _ _, set_cacheSize s value⟩,
    fun s value => ⟨_, readSize_reads _ _ _ _, set_poolSize s value⟩,
    fun _ => readSize_reads _ _ _ _, Text.boundedInt64?_eq⟩

/-- The greatest number of 64 bits is a size, and the one after it is not; the least one is carried
by the error; a sign alone and the digit of another script say nothing. -/
theorem sizes_read_exactly_bounds :
    readSize "poolSize" "\t+009223372036854775807 " 8 .invalidPoolSize =
      (.ok 9223372036854775807, []) ∧
    readSize "poolSize" "-9223372036854775808" 8 .invalidPoolSize =
      (.error (.invalidPoolSize (-9223372036854775808)), []) ∧
    ∀ value ∈ [" 9223372036854775808", "-9223372036854775809", "+", "٣"],
      (readSize "poolSize" value 8 .invalidPoolSize).1 = .ok 8 ∧
        (readSize "poolSize" value 8 .invalidPoolSize).2.length = 1 := by
  obtain ⟨hreads, -⟩ := sizes_read_exactly
  have hgreatest : Writes "\t+009223372036854775807 " 9223372036854775807 :=
    writes_iff.2 (by decide +kernel)
  have hleast : Writes "-9223372036854775808" (-9223372036854775808) :=
    writes_iff.2 (by decide +kernel)
  refine ⟨?_, ?_, ?_⟩
  · obtain ⟨size, hsize, hread⟩ := (hreads "poolSize" _ 8 .invalidPoolSize).positive _ hgreatest
      (by decide) (by decide)
    obtain rfl : size = 9223372036854775807 := by omega
    exact hread
  · exact (hreads "poolSize" _ 8 .invalidPoolSize).notPositive _ hleast (by decide) (by decide)
  · intro value hm
    have hnone : ∀ n, Writes value n → ¬ Fits n := by
      have hall : [" 9223372036854775808", "-9223372036854775809", "+", "٣"].all
          (fun value => (size? value).isNone) = true := by decide +kernel
      exact size?_eq_none_iff.1 (Option.isNone_iff_eq_none.1 (List.all_eq_true.1 hall value hm))
    obtain ⟨notice, hread, -⟩ := (hreads "poolSize" value 8 .invalidPoolSize).other hnone
    rw [hread]
    exact ⟨rfl, rfl⟩

end Settings

end Gazetteer

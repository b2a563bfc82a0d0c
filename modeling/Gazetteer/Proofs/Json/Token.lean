/-
Gazetteer.Proofs.Json.Token — a token that was read is read again.

A scanner looks no further than its token: the text that it took is taken in the
same way whatever follows, as long as that does not go on with a number. Four
hexadecimal digits are four bytes, so the reader of quoted texts does not depend
on how far the text behind them goes either.
-/
import Gazetteer.Proofs.Json.Cases
import Gazetteer.Proofs.Json.Number
import Gazetteer.Proofs.Json.Quoted

namespace Gazetteer.Json

variable {cs rest : List Char} {c : Char} {isNegative : Bool} {size : Nat} {start : Int}
  {n : Number}

/-! ## Words -/

theorem word_append {expected : List Char} (h : word expected cs = .ok rest) (tail : List Char) :
    cs = expected ++ rest ∧ word expected (expected ++ tail) = .ok tail := by
  induction expected generalizing cs with
  | nil => exact ⟨by simpa [word] using h, rfl⟩
  | cons e expected ih =>
    cases cs with
    | nil => cases h
    | cons c cs =>
      rw [word] at h
      split at h
      · next hc =>
        obtain ⟨rfl, hagain⟩ := ih h
        exact ⟨by simp [hc], by simpa [word] using hagain⟩
      · cases h

/-! ## Texts -/

theorem hasFourBytes_of_length (h : 4 ≤ cs.length) : hasFourBytes cs = true := by
  rcases cs with _ | ⟨a, _ | ⟨b, _ | ⟨c, _ | ⟨d, cs⟩⟩⟩⟩
  case cons.cons.cons.cons => exact hasFourBytes_of_four a b c d cs
  all_goals simp at h

/-- How many hexadecimal digits are still to come. -/
def Quoted.digitsLeft : Quoted → Nat
  | .hex left _ _ => left
  | _ => 0

/-- The text that was read as some characters is read again whatever follows, and holds the
hexadecimal digits that were to come. -/
def QuotedAgain (state : Quoted) (cs chars rest : List Char) : Prop :=
  ∃ used, cs = used ++ rest ∧ state.digitsLeft ≤ used.length ∧
    ∀ tail, quoted state (used ++ tail) = .ok (chars, tail)

/-- One character is taken, and what is left is read again. -/
theorem QuotedAgain.cons {state next : Quoted} {chars more : List Char}
    (h : QuotedAgain next cs more rest) (hleft : state.digitsLeft ≤ next.digitsLeft + 1)
    (hback : ∀ used tail, next.digitsLeft ≤ used.length →
      quoted next (used ++ tail) = .ok (more, tail) →
      quoted state (c :: (used ++ tail)) = .ok (chars, tail)) :
    QuotedAgain state (c :: cs) chars rest := by
  obtain ⟨used, hcs, hlength, hagain⟩ := h
  refine ⟨c :: used, by simp [hcs], ?_, ?_⟩
  · simp only [List.length_cons]
    omega
  · intro tail
    exact hback used tail hlength (hagain tail)

variable {chars : List Char}

theorem plain_again
    (ih : ∀ {state chars}, quoted state cs = .ok (chars, rest) → QuotedAgain state cs chars rest)
    (h : quoted .plain (c :: cs) = .ok (chars, rest)) :
    QuotedAgain .plain (c :: cs) chars rest := by
  rw [quoted] at h
  split at h
  · next hc =>
    cases h
    exact ⟨['"'], by simp [hc], by simp [Quoted.digitsLeft], by simp [quoted]⟩
  split at h
  · next hq hs =>
    refine (ih h).cons (by simp [Quoted.digitsLeft]) ?_
    intro used tail _ hagain
    simp [quoted, hs, hagain]
  split at h
  · cases h
  · next hq hs hlow =>
    obtain ⟨⟨more, _⟩, hmore, heq⟩ := map_eq_ok.1 h
    cases heq
    refine (ih hmore).cons (by simp [Quoted.digitsLeft]) ?_
    intro used tail _ hagain
    simp [quoted, hq, hs, hlow, hagain, Except.map]

theorem escaped_again
    (ih : ∀ {state chars}, quoted state cs = .ok (chars, rest) → QuotedAgain state cs chars rest)
    (h : quoted .escaped (c :: cs) = .ok (chars, rest)) :
    QuotedAgain .escaped (c :: cs) chars rest := by
  rw [quoted] at h
  split at h
  · next hu =>
    split at h
    · refine (ih h).cons (by simp [Quoted.digitsLeft]) ?_
      intro used tail hleft hagain
      have hfour : hasFourBytes (used ++ tail) = true :=
        hasFourBytes_of_length (by simp [Quoted.digitsLeft] at hleft ⊢; omega)
      simp [quoted, hu, hfour, hagain]
    · cases h
  · next hu =>
    split at h
    · next d hd =>
      obtain ⟨⟨more, _⟩, hmore, heq⟩ := map_eq_ok.1 h
      cases heq
      refine (ih hmore).cons (by simp [Quoted.digitsLeft]) ?_
      intro used tail _ hagain
      simp [quoted, hu, hd, hagain, Except.map]
    · cases h

theorem hex_again {left value : Nat} {lead : Option Nat}
    (ih : ∀ {state chars}, quoted state cs = .ok (chars, rest) → QuotedAgain state cs chars rest)
    (h : quoted (.hex left value lead) (c :: cs) = .ok (chars, rest)) :
    QuotedAgain (.hex left value lead) (c :: cs) chars rest := by
  rw [quoted] at h
  split at h
  · cases h
  · next hhex =>
    dsimp only at h
    split at h
    · next hleft =>
      refine (ih h).cons (by simp [Quoted.digitsLeft]; omega) ?_
      intro used tail _ hagain
      simp [quoted, hhex, hleft, hagain]
    · next hleft =>
      split at h
      · cases h
      · next hunit =>
        refine (ih h).cons (by simp [Quoted.digitsLeft]; omega) ?_
        intro used tail _ hagain
        simp [quoted, hhex, hleft, hunit, hagain]
      · next hunit =>
        obtain ⟨⟨more, _⟩, hmore, heq⟩ := map_eq_ok.1 h
        cases heq
        refine (ih hmore).cons (by simp [Quoted.digitsLeft]; omega) ?_
        intro used tail _ hagain
        simp [quoted, hhex, hleft, hunit, hagain, Except.map]

theorem afterLeadSlash_again {lead : Nat}
    (ih : ∀ {state chars}, quoted state cs = .ok (chars, rest) → QuotedAgain state cs chars rest)
    (h : quoted (.afterLeadSlash lead) (c :: cs) = .ok (chars, rest)) :
    QuotedAgain (.afterLeadSlash lead) (c :: cs) chars rest := by
  rw [quoted] at h
  split at h
  · next hu =>
    split at h
    · refine (ih h).cons (by simp [Quoted.digitsLeft]) ?_
      intro used tail hleft hagain
      have hfour : hasFourBytes (used ++ tail) = true :=
        hasFourBytes_of_length (by simp [Quoted.digitsLeft] at hleft ⊢; omega)
      simp [quoted, hu, hfour, hagain]
    · cases h
  · cases h

theorem quoted_again {state : Quoted} (h : quoted state cs = .ok (chars, rest)) :
    QuotedAgain state cs chars rest := by
  induction cs generalizing state chars with
  | nil => simp [quoted] at h
  | cons c cs ih =>
    cases state with
    | plain => exact plain_again ih h
    | escaped => exact escaped_again ih h
    | hex left value lead => exact hex_again ih h
    | afterLead lead =>
      rw [quoted] at h
      split at h
      · next hs =>
        refine (ih h).cons (by simp [Quoted.digitsLeft]) ?_
        intro used tail _ hagain
        simp [quoted, hs, hagain]
      · cases h
    | afterLeadSlash lead => exact afterLeadSlash_again ih h

theorem text_again {s : String} (h : text cs = .ok (s, rest)) :
    ∃ used, cs = used ++ rest ∧ ∀ tail, text (used ++ tail) = .ok (s, tail) := by
  obtain ⟨⟨chars, _⟩, hchars, heq⟩ := map_eq_ok.1 h
  cases heq
  obtain ⟨used, hcs, -, hagain⟩ := quoted_again hchars
  refine ⟨used, hcs, ?_⟩
  intro tail
  simp [text, hagain, Except.map]

/-! ## Numbers -/

/-- The text of a number is read again before any text that does not go on with it. -/
def NumberAgain (scan : List Char → Scanned Number) (cs : List Char) (n : Number)
    (rest : List Char) : Prop :=
  ∃ used, cs = used ++ rest ∧ ∀ tail, EndsNumber tail → scan (used ++ tail) = .ok (n, tail)

variable {scan inner : List Char → Scanned Number} {ds first : List Char}

theorem NumberAgain.nil (h : ∀ tail, EndsNumber tail → scan tail = .ok (n, tail)) :
    NumberAgain scan cs n cs :=
  ⟨[], rfl, h⟩

/-- Some characters are taken, and what is left is read again. -/
theorem NumberAgain.append (h : NumberAgain inner cs n rest)
    (hback : ∀ used tail, cs = used ++ rest → EndsNumber tail →
      inner (used ++ tail) = .ok (n, tail) → scan (first ++ (used ++ tail)) = .ok (n, tail)) :
    NumberAgain scan (first ++ cs) n rest := by
  obtain ⟨used, hcs, hagain⟩ := h
  refine ⟨first ++ used, by simp [hcs], ?_⟩
  intro tail htail
  rw [List.append_assoc]
  exact hback used tail hcs htail (hagain tail htail)

/-- Digits end where they ended before, or where the number does. -/
theorem EndsNumber.digits {used tail : List Char} (htail : EndsNumber tail)
    (hrest : ∀ c ∈ (used ++ rest).head?, c.isDigit = false) :
    ∀ c ∈ (used ++ tail).head?, c.isDigit = false := by
  cases used with
  | nil => exact fun c hc => (htail c hc).1
  | cons d used => simpa using hrest

theorem doubleOf_again (h : doubleOf isNegative size start cs = .ok (n, rest)) :
    cs = rest ∧ ∀ tail, doubleOf isNegative size start tail = .ok (n, tail) := by
  unfold doubleOf at h ⊢
  split at h
  · cases h
  · cases h
    simp

/-- An exponent, after its sign. -/
def exponentDigits (isDown isNegative : Bool) (number : Nat) (start : Int) (cs : List Char) :
    Scanned Number :=
  match cs with
  | [] => .error .truncated
  | c :: _ =>
    if !c.isDigit then .error .malformed
    else
      let (ds, rest) := digits cs
      let size := Nat.ofDigitChars 10 ds 0
      if size < 0x80000000 then
        doubleOf isNegative number (if isDown then start - size else start + size) rest
      else if number ≠ 0 ∧ !isDown then .error .malformed
      else .ok (signed isNegative 0, rest)

theorem exponentPart_eq (cs : List Char) :
    exponentPart isNegative size start cs =
      exponentDigits (cs.head? == some '-') isNegative size start
        (if cs.head? == some '-' || cs.head? == some '+' then cs.drop 1 else cs) := rfl

theorem exponentDigits_again {isDown : Bool}
    (h : exponentDigits isDown isNegative size start cs = .ok (n, rest)) :
    ∃ c used, cs = c :: (used ++ rest) ∧ c.isDigit = true ∧ ∀ tail, EndsNumber tail →
      exponentDigits isDown isNegative size start (c :: (used ++ tail)) = .ok (n, tail) := by
  cases cs with
  | nil => cases h
  | cons c cs =>
    simp only [exponentDigits] at h
    split at h
    · cases h
    · next hc =>
      have hdigit : c.isDigit = true := by simpa using hc
      obtain ⟨ds, behind, hds⟩ : ∃ ds behind, digits cs = (ds, behind) := ⟨_, _, rfl⟩
      obtain ⟨rfl, hall, hend⟩ := digits_eq_iff.1 hds
      have hdigits : ∀ tail, (∀ d ∈ tail.head?, d.isDigit = false) →
          digits (c :: (ds ++ tail)) = (c :: ds, tail) := by
        intro tail htail
        rw [← List.cons_append]
        exact digits_append (by simpa [hdigit] using hall) htail
      rw [hdigits behind hend] at h
      dsimp only at h
      split at h
      · next hsize =>
        obtain ⟨rfl, hagain⟩ := doubleOf_again h
        refine ⟨c, ds, rfl, hdigit, ?_⟩
        intro tail htail
        simp only [exponentDigits, hdigits tail fun d hd => (htail d hd).1]
        simp [hdigit, hsize, hagain]
      · next hsize =>
        split at h
        · cases h
        · next hzero =>
          cases h
          refine ⟨c, ds, rfl, hdigit, ?_⟩
          intro tail htail
          simp only [exponentDigits, hdigits tail fun d hd => (htail d hd).1]
          rw [if_neg hc, if_neg hsize, if_neg hzero]

theorem exponentPart_again (h : exponentPart isNegative size start cs = .ok (n, rest)) :
    NumberAgain (exponentPart isNegative size start) cs n rest := by
  rw [exponentPart_eq] at h
  cases cs with
  | nil => cases h
  | cons c cs =>
    rcases Decidable.em (c = '-' ∨ c = '+') with hsign | hsign
    · have hdrop : (if (c :: cs).head? == some '-' || (c :: cs).head? == some '+'
          then (c :: cs).drop 1 else c :: cs) = cs := by
        rcases hsign with rfl | rfl <;> rfl
      rw [hdrop] at h
      obtain ⟨d, used, rfl, -, hagain⟩ := exponentDigits_again h
      refine ⟨c :: d :: used, rfl, ?_⟩
      intro tail htail
      have hfirst : (if (c :: d :: used ++ tail).head? == some '-' ||
            (c :: d :: used ++ tail).head? == some '+'
          then (c :: d :: used ++ tail).drop 1 else c :: d :: used ++ tail) =
            d :: (used ++ tail) := by
        rcases hsign with rfl | rfl <;> rfl
      rw [exponentPart_eq, hfirst]
      exact hagain tail htail
    · obtain ⟨hminus, hplus⟩ := not_or.1 hsign
      have hkeep : ∀ x, (if (c :: x).head? == some '-' || (c :: x).head? == some '+'
          then (c :: x).drop 1 else c :: x) = c :: x := by
        intro x
        simp [hminus, hplus]
      rw [hkeep] at h
      obtain ⟨d, used, hcs, -, hagain⟩ := exponentDigits_again h
      obtain ⟨rfl, rfl⟩ := List.cons.inj hcs
      refine ⟨c :: used, rfl, ?_⟩
      intro tail htail
      rw [exponentPart_eq, List.cons_append, hkeep]
      exact hagain tail htail

theorem exponentOrEnd_again (h : exponentOrEnd isNegative size start cs = .ok (n, rest)) :
    NumberAgain (exponentOrEnd isNegative size start) cs n rest := by
  unfold exponentOrEnd at h
  split at h
  · next behind =>
    show NumberAgain _ (['e'] ++ behind) n rest
    exact (exponentPart_again h).append fun _ _ _ _ hagain => hagain
  · next behind =>
    show NumberAgain _ (['E'] ++ behind) n rest
    exact (exponentPart_again h).append fun _ _ _ _ hagain => hagain
  · obtain ⟨rfl, hagain⟩ := doubleOf_again h
    refine .nil ?_
    intro tail htail
    unfold exponentOrEnd
    split
    · exact absurd rfl (htail 'e' (by simp)).2.2.1
    · exact absurd rfl (htail 'E' (by simp)).2.2.2
    · exact hagain tail

theorem fractionPart_again (h : fractionPart isNegative size start cs = .ok (n, rest)) :
    NumberAgain (fractionPart isNegative size start) cs n rest := by
  obtain ⟨ds, behind, hds⟩ : ∃ ds behind, digits cs = (ds, behind) := ⟨_, _, rfl⟩
  obtain ⟨rfl, hall, hend⟩ := digits_eq_iff.1 hds
  simp only [fractionPart, hds] at h
  split at h
  · cases h
  · next hempty =>
    refine (exponentOrEnd_again h).append ?_
    rintro used tail rfl htail hagain
    simp only [fractionPart, digits_append hall (htail.digits hend), if_neg hempty]
    exact hagain

/-- A number, after the digits before its point or its exponent; `left` of them did not fit. -/
def afterWhole (isNegative : Bool) (number left : Nat) (cs : List Char) : Scanned Number :=
  match cs with
  | '.' :: rest => fractionPart isNegative number left rest
  | 'e' :: rest | 'E' :: rest => exponentPart isNegative number left rest
  | _ =>
    if left = 0 then .ok (wholeOf isNegative number, cs)
    else doubleOf isNegative number left cs

theorem unsignedNumber_eq (hc : c.isDigit = true) (hds : ∀ d ∈ ds, d.isDigit = true)
    (hrest : ∀ d ∈ rest.head?, d.isDigit = false) :
    unsignedNumber isNegative (c :: (ds ++ rest)) =
      if c = '0' ∧ 1 < (c :: ds).length then .error .malformed
      else afterWhole isNegative (accumulate 0 (c :: ds)).1 (accumulate 0 (c :: ds)).2 rest := by
  have hdigits : digits (c :: (ds ++ rest)) = (c :: ds, rest) := by
    rw [← List.cons_append]
    exact digits_append (by simpa [hc] using hds) hrest
  simp only [unsignedNumber, hdigits, List.isEmpty_cons, Bool.false_eq_true, false_or]
  rfl

theorem afterWhole_again {left : Nat} (h : afterWhole isNegative size left cs = .ok (n, rest)) :
    NumberAgain (afterWhole isNegative size left) cs n rest := by
  unfold afterWhole at h
  split at h
  · next behind =>
    show NumberAgain _ (['.'] ++ behind) n rest
    exact (fractionPart_again h).append fun _ _ _ _ hagain => hagain
  · next behind =>
    show NumberAgain _ (['e'] ++ behind) n rest
    exact (exponentPart_again h).append fun _ _ _ _ hagain => hagain
  · next behind =>
    show NumberAgain _ (['E'] ++ behind) n rest
    exact (exponentPart_again h).append fun _ _ _ _ hagain => hagain
  · have hend : cs = rest ∧ ∀ tail, (if left = 0 then .ok (wholeOf isNegative size, tail)
        else doubleOf isNegative size left tail) = Except.ok (n, tail) := by
      split at h
      · next hleft =>
        cases h
        simp [hleft]
      · next hleft =>
        simp only [if_neg hleft]
        exact doubleOf_again h
    obtain ⟨rfl, hagain⟩ := hend
    refine .nil ?_
    intro tail htail
    unfold afterWhole
    split
    · exact absurd rfl (htail '.' (by simp)).2.1
    · exact absurd rfl (htail 'e' (by simp)).2.2.1
    · exact absurd rfl (htail 'E' (by simp)).2.2.2
    · exact hagain tail

theorem isDigit_of_unsignedNumber (h : unsignedNumber isNegative (c :: cs) = .ok (n, rest)) :
    c.isDigit = true := by
  cases hc : c.isDigit with
  | true => rfl
  | false => simp [unsignedNumber, digits, hc] at h

theorem unsignedNumber_again (h : unsignedNumber isNegative cs = .ok (n, rest)) :
    ∃ c used, cs = c :: (used ++ rest) ∧ c.isDigit = true ∧ ∀ tail, EndsNumber tail →
      unsignedNumber isNegative (c :: (used ++ tail)) = .ok (n, tail) := by
  cases cs with
  | nil => cases h
  | cons c cs =>
    have hc := isDigit_of_unsignedNumber h
    obtain ⟨ds, behind, hds⟩ : ∃ ds behind, digits cs = (ds, behind) := ⟨_, _, rfl⟩
    obtain ⟨rfl, hall, hend⟩ := digits_eq_iff.1 hds
    rw [unsignedNumber_eq hc hall hend] at h
    split at h
    · cases h
    · next hzero =>
      obtain ⟨used, rfl, hagain⟩ := afterWhole_again h
      refine ⟨c, ds ++ used, by simp, hc, ?_⟩
      intro tail htail
      rw [List.append_assoc, unsignedNumber_eq hc hall (htail.digits hend), if_neg hzero]
      exact hagain tail htail

/-- The text of a number, which is not empty, is read again before any text that does not go on
with it. -/
theorem number_again (h : number cs = .ok (n, rest)) :
    ∃ c used, cs = c :: (used ++ rest) ∧ ∀ tail, EndsNumber tail →
      number (c :: (used ++ tail)) = .ok (n, tail) := by
  unfold number at h
  split at h
  · obtain ⟨c, used, rfl, -, hagain⟩ := unsignedNumber_again h
    exact ⟨'-', c :: used, rfl, hagain⟩
  · next hminus =>
    obtain ⟨c, used, rfl, hc, hagain⟩ := unsignedNumber_again h
    refine ⟨c, used, rfl, ?_⟩
    intro tail htail
    unfold number
    split
    · next heq =>
      obtain ⟨rfl, -⟩ := List.cons.inj heq
      exact absurd rfl (hminus (used ++ rest))
    · exact hagain tail htail

end Gazetteer.Json

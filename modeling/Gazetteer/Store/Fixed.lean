/-
Gazetteer.Store.Fixed — a store whose answers are given in advance.

It answers a text as the last entry for that text says and finds nothing else.
It writes down every text it is asked for, in order.
-/
import Gazetteer.Location

namespace Gazetteer.Store

structure Fixed where
  answers : List (String × Resolved)
  /-- The texts asked for so far, the newest first. -/
  requests : List String

namespace Fixed

/-- A store that has not been asked yet. -/
def ofAnswers (answers : List (String × Resolved)) : Fixed := ⟨answers, []⟩

/-- Look an address text up. -/
def resolve (s : Fixed) (address : String) : Option Resolved × Fixed :=
  (s.answers.reverse.lookup address, { s with requests := address :: s.requests })

/-- The texts asked for, in order. -/
def asked (s : Fixed) : List String := s.requests.reverse

theorem asked_resolve (s : Fixed) (address : String) :
    (s.resolve address).2.asked = s.asked ++ [address] := by
  simp [resolve, asked]

end Fixed

end Gazetteer.Store

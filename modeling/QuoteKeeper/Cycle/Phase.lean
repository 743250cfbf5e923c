import QuoteKeeper.Cycle.Summary

/-!
# Phases of a cycle

Cancel what is unprofitable, else cancel what is outbid, else propose. A cancel phase that acts ends
the cycle.
-/

namespace QuoteKeeper

inductive Phase where
  | cancelUnprofitable
  | cancelOutbid
  | propose
  /-- A cancel phase acted. -/
  | blocked (reason : CancelReason)
  | done
deriving DecidableEq

namespace Phase

/-- The phase that follows, given how often this one acted. -/
def advance (p : Phase) (actions : Nat) : Phase :=
  match p with
  | cancelUnprofitable => if 0 < actions then blocked .unprofitable else cancelOutbid
  | cancelOutbid => if 0 < actions then blocked .outbid else propose
  | propose => done
  | blocked reason => blocked reason
  | done => done

def isTerminal : Phase → Bool
  | blocked _ | done => true
  | _ => false

/-- How many phases can still follow. -/
def rank : Phase → Nat
  | cancelUnprofitable => 3
  | cancelOutbid => 2
  | propose => 1
  | blocked _ => 0
  | done => 0

theorem rank_advance_lt (p : Phase) (actions : Nat) (h : p.isTerminal = false) :
    (p.advance actions).rank < p.rank := by
  cases p with
  | cancelUnprofitable => by_cases h : 0 < actions <;> simp [advance, rank, h]
  | cancelOutbid => by_cases h : 0 < actions <;> simp [advance, rank, h]
  | propose => exact Nat.zero_lt_one
  | blocked reason => exact Bool.noConfusion h
  | done => exact Bool.noConfusion h

end Phase

end QuoteKeeper

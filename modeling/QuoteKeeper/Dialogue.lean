import QuoteKeeper.Decimal.Overflow
import QuoteKeeper.Journal
import QuoteKeeper.Market.BidAsk
import QuoteKeeper.Notice
import QuoteKeeper.Venue.Call

/-!
# Dialogues with the outside

Everything the keeper does to the outside, or asks of it, is an act; a dialogue is a finite tree of
acts that branches on the answers. It says nothing about how the outside answers: a world does, and
running a dialogue against a world gives the result and the world's state afterwards. What holds on
every path of a dialogue holds in every world.
-/

namespace QuoteKeeper

inductive Act where
  /-- Call the venue. -/
  | call (c : Call)
  | notify (n : Notice)
  /-- Is the feed running? -/
  | feedRunning
  | startFeed
  | stopFeed
  /-- The last known reference price of a pair. -/
  | reference (p : Pair)
  | log (line : LogLine)
deriving DecidableEq

abbrev Act.Answer : Act → Type
  | call c => c.Reply
  | notify _ => Except CallError Unit
  | feedRunning => Bool
  | startFeed => Unit
  | stopFeed => Unit
  | reference _ => Option BidAsk
  | log _ => Unit

inductive Dialogue (α : Type) : Type where
  | done (result : α)
  | act (a : Act) (next : a.Answer → Dialogue α)

namespace Dialogue

variable {α β γ : Type}

def bind : Dialogue α → (α → Dialogue β) → Dialogue β
  | done a, f => f a
  | act a next, f => act a fun r => (next r).bind f

instance : Monad Dialogue where
  pure := done
  bind := bind

theorem bind_done (d : Dialogue α) : d.bind done = d := by
  induction d with
  | done a => rfl
  | act a next ih => exact congrArg (act a) (funext ih)

theorem bind_assoc (d : Dialogue α) (f : α → Dialogue β) (g : β → Dialogue γ) :
    (d.bind f).bind g = d.bind fun a => (f a).bind g := by
  induction d with
  | done a => rfl
  | act a next ih => exact congrArg (act a) (funext ih)

instance : LawfulMonad Dialogue :=
  LawfulMonad.mk' Dialogue bind_done (fun _ _ => rfl) bind_assoc

def call (c : Call) : Dialogue c.Reply := act (.call c) done

def notify (n : Notice) : Dialogue (Except CallError Unit) := act (.notify n) done

def feedRunning : Dialogue Bool := act .feedRunning done

def startFeed : Dialogue Unit := act .startFeed done

def stopFeed : Dialogue Unit := act .stopFeed done

def reference (p : Pair) : Dialogue (Option BidAsk) := act (.reference p) done

def log (line : LogLine) : Dialogue Unit := act (.log line) done

/-- One way a dialogue can go: the acts with their answers, and the result. -/
inductive Path : Dialogue α → List (Σ a : Act, a.Answer) → α → Prop
  | done (a : α) : Path (done a) [] a
  | act {a : Act} {next : a.Answer → Dialogue α} {r : a.Answer} {rest : List (Σ a : Act, a.Answer)}
      {result : α} (tail : Path (next r) rest result) : Path (act a next) (⟨a, r⟩ :: rest) result

end Dialogue

/-- How the outside answers, and what it is like afterwards. A world can break down over an act,
which ends the dialogue without a result. -/
abbrev World (σ : Type) := (a : Act) → σ → Except Overflow a.Answer × σ

/-- Let a dialogue take place, to its end or until the world breaks down. -/
def Dialogue.run {α σ : Type} (world : World σ) : Dialogue α → σ → Except Overflow α × σ
  | done a, s => (.ok a, s)
  | act a next, s =>
    match world a s with
    | (.error e, s) => (.error e, s)
    | (.ok r, s) => (next r).run world s

end QuoteKeeper

import Fieldwatch.Database.Connection
import Fieldwatch.Proofs.Access

/-!
# Overhearing a server

A server is overheard: all that it is sent is taken down with what it answers. What passes in a
call is told from what passes in its parts, and that it is overheard makes no difference to the
call.
-/
namespace Fieldwatch

namespace Database

/-! ## Overhearing a server -/

/-- Something that a server is sent, with its answer. -/
inductive Exchange
  | install (answer : Except StoreError Unit)
  | start (answer : Except StoreError Unit)
  | statement (statement : Statement) (answer : Except StoreError Reply)
  | commit (answer : Except StoreError Unit)
  | rollback

namespace Exchange

/-- The statement of an exchange, if it is one, with its answer. -/
def statement? : Exchange → Option (Statement × Except StoreError Reply)
  | statement sent answer => some (sent, answer)
  | _ => none

end Exchange

/-- A server with all that passed between it and its client. -/
structure Overheard (γ : Type) where
  server : γ
  exchanges : List Exchange := []

variable {γ : Type} {α β : Type}

namespace Overheard

/-- Passes a call on to the server and takes it down. -/
def relay (call : Access γ α) (exchange : Except StoreError α → Exchange) :
    Access (Overheard γ) α := fun heard =>
  let (answer, server) := call heard.server
  (answer, ⟨server, heard.exchanges ++ [exchange answer]⟩)

instance [Connection γ] : Connection (Overheard γ) where
  install scripts := relay (Connection.install scripts) .install
  start := relay Connection.start .start
  commit := relay Connection.commit .commit
  rollback := fun heard =>
    ((), ⟨((Connection.rollback : StateM γ Unit) heard.server).2, heard.exchanges ++ [.rollback]⟩)
  send statement := relay (Connection.send statement) (.statement statement)

end Overheard

/-- Whether a call goes the same way on a server that is overheard as on the server itself, and
what passes stands in a relation to the answer. -/
def Passes (overheard : Access (Overheard γ) α) (plain : Access γ α)
    (relation : List Exchange → Except StoreError α → Prop) : Prop :=
  ∀ server earlier, ∃ passed,
    overheard ⟨server, earlier⟩ =
      ((plain server).1, ⟨(plain server).2, earlier ++ passed⟩) ∧
    relation passed (plain server).1

namespace Passes

variable {overheard : Access (Overheard γ) α} {plain : Access γ α}
  {relation weaker : List Exchange → Except StoreError α → Prop}

theorem mono (passes : Passes overheard plain relation)
    (implies : ∀ passed answer, relation passed answer → weaker passed answer) :
    Passes overheard plain weaker := by
  intro server earlier
  obtain ⟨passed, same, holds⟩ := passes server earlier
  exact ⟨passed, same, implies _ _ holds⟩

/-- Nothing passes in a call that answers without the server. -/
theorem of_answer (answer : Except StoreError α)
    (heard : ∀ heard, overheard heard = (answer, heard))
    (went : ∀ server, plain server = (answer, server)) :
    Passes overheard plain fun passed given => passed = [] ∧ given = answer := by
  intro server earlier
  rw [went, heard]
  exact ⟨[], by rw [List.append_nil], rfl, rfl⟩

theorem of_relay (call : Access γ α) (exchange : Except StoreError α → Exchange) :
    Passes (Overheard.relay call exchange) call
      fun passed answer => passed = [exchange answer] :=
  fun server _ => ⟨[exchange (call server).1], rfl, rfl⟩

/-- Of two calls in a row the second passes only when the first answers. -/
theorem bind {overheardNext : α → Access (Overheard γ) β} {next : α → Access γ β}
    {later : α → List Exchange → Except StoreError β → Prop}
    (first : Passes overheard plain relation)
    (second : ∀ value, Passes (overheardNext value) (next value) (later value)) :
    Passes (overheard >>= overheardNext) (plain >>= next) fun passed answer =>
      (∃ error, relation passed (.error error) ∧ answer = .error error) ∨
        ∃ value before after, relation before (.ok value) ∧ later value after answer ∧
          passed = before ++ after := by
  intro server earlier
  obtain ⟨before, same, holds⟩ := first server earlier
  rw [Access.bind_apply, Access.bind_apply, same]
  rcases went : plain server with ⟨answer, middle⟩
  rw [went] at holds
  cases answer with
  | error error => exact ⟨before, rfl, .inl ⟨error, holds, rfl⟩⟩
  | ok value =>
    obtain ⟨after, sameAfter, holdsAfter⟩ := second value middle (earlier ++ before)
    refine ⟨before ++ after, ?_, .inr ⟨value, before, after, holds, holdsAfter, rfl⟩⟩
    rw [← List.append_assoc]
    exact sameAfter

theorem ite {other : Access (Overheard γ) α} {otherPlain : Access γ α}
    {otherwise : List Exchange → Except StoreError α → Prop} (condition : Prop)
    [Decidable condition] (passes : Passes overheard plain relation)
    (passesElse : Passes other otherPlain otherwise) :
    Passes (if condition then overheard else other) (if condition then plain else otherPlain)
      fun passed answer =>
        if condition then relation passed answer else otherwise passed answer := by
  by_cases holds : condition
  · simpa only [if_pos holds] using passes
  · simpa only [if_neg holds] using passesElse

end Passes

/-! ## Statements -/

variable [Connection γ]

theorem passes_send (statement : Statement) :
    Passes (Connection.send statement) (Connection.send statement : Access γ Reply)
      fun passed answer => passed = [.statement statement answer] :=
  .of_relay _ _

theorem passes_execute (statement : Statement) :
    Passes (execute statement) (execute statement : Access γ Nat)
      fun passed answer => ∃ found, passed = [.statement statement found] ∧
        answer = found.map Reply.affected := by
  unfold execute
  refine ((passes_send statement).bind fun reply =>
    Passes.of_answer _ (fun _ => rfl) fun _ => rfl).mono ?_
  rintro passed answer (⟨error, rfl, rfl⟩ | ⟨reply, before, after, rfl, ⟨rfl, rfl⟩, rfl⟩)
  · exact ⟨.error error, rfl, rfl⟩
  · exact ⟨.ok reply, rfl, rfl⟩

theorem passes_queryValue (statement : Statement) :
    Passes (queryValue statement) (queryValue statement : Access γ (Option Int64))
      fun passed answer => ∃ found, passed = [.statement statement found] ∧
        answer = found.bind fun reply => reply.rows.head?.mapM (Row.first Int64) := by
  have read (reply : Reply) :
      Passes (reply.rows.head?.mapM fun row => liftM (row.first Int64))
        (reply.rows.head?.mapM fun row => liftM (row.first Int64) : Access γ (Option Int64))
        fun passed answer => passed = [] ∧
          answer = reply.rows.head?.mapM (Row.first Int64) := by
    cases reply.rows.head? with
    | none => exact .of_answer _ (fun _ => rfl) fun _ => rfl
    | some row =>
      simp only [Option.mapM_some]
      cases row.first Int64 with
      | ok version => exact .of_answer _ (fun _ => rfl) fun _ => rfl
      | error error => exact .of_answer _ (fun _ => rfl) fun _ => rfl
  unfold queryValue
  refine ((passes_send statement).bind read).mono ?_
  rintro passed answer (⟨error, rfl, rfl⟩ | ⟨reply, before, after, rfl, ⟨rfl, rfl⟩, rfl⟩)
  · exact ⟨.error error, rfl, rfl⟩
  · exact ⟨.ok reply, rfl, rfl⟩

end Database
end Fieldwatch

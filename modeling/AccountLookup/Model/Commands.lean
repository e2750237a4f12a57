import AccountLookup.Model.Aggregate

/-! The commands that the services send to the databases, to the cache, to remote oracles and to the
disk.  Any of them may fail, and one that fails has no effect. -/

namespace AccountLookup

open Async

/-- The commands, by the place in the code that sends them. -/
inductive Command where
  | finderConnect
  | finderClose
  | findOracles
  | findOracleById
  | findOracleByName
  | findOraclePresent
  | findOraclesOfType
  | insertOracle
  | deleteOracle
  | mongoConnect (adapter : OracleAdapter)
  | redisConnect (adapter : OracleAdapter)
  | mongoClose (adapter : OracleAdapter)
  | mongoPing (adapter : OracleAdapter)
  | redisGet
  | redisSetex
  | redisDel
  | findParticipant
  | findAssociation
  | findAssociations
  | countAssociations
  | findAllAssociations
  | insertAssociation
  | deleteAssociation
  | httpRequest
  | readFile
  | writeFile
  deriving DecidableEq, Repr

/-- The error of each command that fails during a call. -/
abbrev Faults := Command → Option JsError

/-- No command fails. -/
def Faults.none : Faults := fun _ => Option.none

variable {σ α : Type} (faults : Faults)

/-- Sends `command`, whose effect is `f`. -/
def send (command : Command) (f : σ → α × σ) : Proc JsError σ α :=
  match faults command with
  | some error => .reject error
  | none => .atomic fun s => (.ok (f s).1, (f s).2)

variable {faults} {command : Command} {f : σ → α × σ} (s : σ)

@[simp] theorem run_send :
    (send faults command f).run s =
      match faults command with
      | some error => (.error error, s)
      | none => (.ok (f s).1, (f s).2) := by
  unfold send
  split <;> simp

@[simp] theorem run_send_rethrow (g : JsError → JsError) :
    ((send faults command f).rethrow g).run s =
      match faults command with
      | some error => (.error (g error), s)
      | none => (.ok (f s).1, (f s).2) := by
  rw [Proc.run_rethrow, run_send]
  split <;> rfl

/-! ### Steps -/

variable {β : Type} {error : JsError}

/-- A command that does not fail is one step, after which its continuation is left. -/
theorem step_send_bind (h : faults command = none) (k : α → Proc JsError σ β) :
    (send faults command f >>= k).step s = (k (f s).1, (f s).2) := by
  unfold send
  rw [h]
  rfl

theorem step_send_rethrow_bind (h : faults command = none) (g : JsError → JsError)
    (k : α → Proc JsError σ β) :
    ((send faults command f).rethrow g >>= k).step s = (k (f s).1, (f s).2) := by
  unfold send
  rw [h]
  rfl

theorem step_send (h : faults command = none) :
    (send faults command f).step s = (.resolve (f s).1, (f s).2) := by
  unfold send
  rw [h]
  rfl

theorem settled_send_bind (h : faults command = some error) (k : α → Proc JsError σ β) :
    (send faults command f >>= k).settled = true := by
  unfold send
  rw [h]
  rfl

theorem settled_send_rethrow_bind (h : faults command = some error) (g : JsError → JsError)
    (k : α → Proc JsError σ β) : ((send faults command f).rethrow g >>= k).settled = true := by
  unfold send
  rw [h]
  rfl

theorem settled_send (h : faults command = some error) :
    (send faults command f).settled = true := by
  unfold send
  rw [h]
  rfl

theorem not_settled_send (h : faults command = none) :
    (send faults command f).settled = false := by
  unfold send
  rw [h]
  rfl

theorem not_settled_send_rethrow_bind (h : faults command = none) (g : JsError → JsError)
    (k : α → Proc JsError σ β) : ((send faults command f).rethrow g >>= k).settled = false := by
  unfold send
  rw [h]
  rfl

end AccountLookup

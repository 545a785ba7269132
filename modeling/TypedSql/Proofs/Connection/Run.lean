import TypedSql.Connection.Execution
import TypedSql.Connection.Script

/-!
# Runs of actions

What an action does from a given state: the answer, and the state that it
leaves behind.  A scripted connection answers every request from its next
reply.
-/

namespace TypedSql

section

variable {σ ε α β : Type}

/-- An action is followed by the next one unless it fails. -/
theorem EngineM.run_bind (action : EngineM σ ε α) (next : α → EngineM σ ε β)
    (state : σ) :
    (action >>= next).run.run state =
      match action.run.run state with
      | (.ok value, after) => (next value).run.run after
      | (.error error, after) => (.error error, after) := by
  have unfolded :
      (action >>= next).run.run state =
        (match (action.run.run state).1 with
          | .ok value => (next value).run
          | .error error => pure (.error error))
          (action.run.run state).2 := rfl
  rw [unfolded]
  rcases action.run.run state with ⟨answer | answer, after⟩ <;> rfl

theorem EngineM.run_bind_of_ok {action : EngineM σ ε α} {state after : σ}
    {value : α} (ran : action.run.run state = (.ok value, after))
    (next : α → EngineM σ ε β) :
    (action >>= next).run.run state = (next value).run.run after := by
  rw [EngineM.run_bind, ran]

theorem EngineM.run_bind_of_error {action : EngineM σ ε α} {state after : σ}
    {error : ε} (ran : action.run.run state = (.error error, after))
    (next : α → EngineM σ ε β) :
    (action >>= next).run.run state = (.error error, after) := by
  rw [EngineM.run_bind, ran]

theorem StateM.run_bind_of {action : StateM σ α} {next : α → StateM σ β}
    {state after : σ} {value : α} (ran : action.run state = (value, after)) :
    (action >>= next).run state = (next value).run after := by
  have unfolded :
      (action >>= next).run state =
        (next (action.run state).1).run (action.run state).2 := rfl
  rw [unfolded, ran]

theorem Connection.onStorage_run {action : EngineM σ String α}
    {state after : σ} {answer : Except String α}
    (answered : action.run.run state = (answer, after)) :
    (onStorage action).run.run state = (answer.mapError .storage, after) := by
  have unfolded :
      (onStorage action).run.run state =
        ((action.run.run state).1.mapError .storage,
          (action.run.run state).2) := rfl
  rw [unfolded, answered]

end

namespace Reply

/-- What a reply answers to a request that takes its answer from it. -/
def answer {α : Type} (reply : Reply) (read : Reply → α) : Except String α :=
  match reply.failure with
  | some failure => .error failure
  | none => .ok (read reply)

end Reply

namespace Script

/-- The reply to the request that comes after so many others. -/
def reply (script : Script) (index : Nat) : Reply :=
  script.replies.getD index Reply.blank

/-- The script after these requests have been answered. -/
def after (script : Script) (requests : List Request) : Script :=
  { replies := script.replies.drop requests.length
    log := script.log ++ requests }

theorem reply_after (script : Script) (requests : List Request)
    (index : Nat) :
    (script.after requests).reply index =
      script.reply (requests.length + index) := by
  simp [reply, after, List.getD_eq_getElem?_getD]

theorem after_nil (script : Script) : script.after [] = script := by
  simp [after]

theorem after_after (script : Script) (first second : List Request) :
    (script.after first).after second = script.after (first ++ second) := by
  simp [after]

theorem ask_run {α : Type} (request : Request) (read : Reply → α)
    (script : Script) :
    (ask request read).run.run script =
      ((script.reply 0).answer read, script.after [request]) := by
  obtain ⟨replies, log⟩ := script
  cases replies with
  | nil => rfl
  | cons reply replies =>
      obtain ⟨failure, rows, count, present⟩ := reply
      cases failure <;> rfl

end Script

end TypedSql

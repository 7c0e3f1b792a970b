import CardLink.Proofs.HandleSteps
import CardLink.Proofs.History

/-!
# Requests for one command

Most requests issue one command and read its answer; they differ in the command, in what they check
before it and in what they make of the answer. What a command does to a handle and to the frames on
the way is therefore shown once, for `issue`, and holds of all of them.
-/

namespace CardLink

namespace Card

/-! ## Operations -/

/-- Started on the handle, the operation is refused before any frame, or it issues the command of
the request and reads the answer. -/
def IssuesCommand {α : Type} (c : Card) (r : Request) (a : Action Card α) : Prop :=
  (∃ err, a.start c = .done (.error err, c)) ∨
    ∃ cmd, c.command? r = some cmd ∧ ∃ read, (∀ data, Action.Reads (read data)) ∧
      a.start c = (issue cmd >>= read).start c

section

variable {α β : Type} {c : Card} {r : Request}

theorem IssuesCommand.bind_reads {a : Action Card α} {k : α → Action Card β}
    (ha : c.IssuesCommand r a) (hk : ∀ x, (k x).Reads) : c.IssuesCommand r (a >>= k) := by
  rcases ha with ⟨err, ha⟩ | ⟨cmd, hcmd, read, hread, ha⟩
  · refine Or.inl ⟨err, ?_⟩
    rw [Action.start_bind, ha]
    rfl
  · refine Or.inr ⟨cmd, hcmd, fun data => read data >>= k, ?_, ?_⟩
    · exact fun data => Action.reads_bind (hread data) hk
    · rw [Action.start_bind, ha, ← Action.start_bind, bind_assoc]

theorem IssuesCommand.map {a : Action Card α} (ha : c.IssuesCommand r a) (f : α → β) :
    c.IssuesCommand r (f <$> a) := by
  rw [map_eq_pure_bind]
  exact ha.bind_reads fun x => Action.reads_pure _

theorem issuesCommand_issue {cmd : Command} (hr : c.command? r = some cmd) :
    c.IssuesCommand r (issue cmd) := by
  refine Or.inr ⟨cmd, hr, pure, Action.reads_pure, ?_⟩
  rw [bind_pure]

theorem issuesCommand_get {f : Card → Action Card α} (h : c.IssuesCommand r (f c)) :
    c.IssuesCommand r (get >>= f) := by
  unfold IssuesCommand
  rw [Action.start_get_bind]
  exact h

theorem issuesCommand_throw (err : Error) : c.IssuesCommand r (throw err : Action Card α) :=
  Or.inl ⟨err, rfl⟩

theorem macIfSession_bind (f : CommMode → Action Card α) (c : Card) :
    (macIfSession >>= f).start c = (f c.preferredMode).start c := rfl

/-- A command that is protected as soon as there is a session. -/
theorem issuesCommand_macIfSession {cmd : CommMode → Command}
    (hr : c.command? r = some (cmd c.preferredMode)) {read : Bytes → Action Card α}
    (hread : ∀ data, (read data).Reads) :
    c.IssuesCommand r (macIfSession >>= fun mode => issue (cmd mode) >>= read) := by
  unfold IssuesCommand
  rw [macIfSession_bind]
  exact (issuesCommand_issue hr).bind_reads hread

/-- A command that may turn out not to exist. -/
theorem issuesCommand_liftM {x : Except Error Command} (hr : c.command? r = x.toOption)
    {read : Bytes → Action Card α} (hread : ∀ data, (read data).Reads) :
    c.IssuesCommand r (liftM x >>= fun cmd => issue cmd >>= read) := by
  cases x with
  | error err => exact issuesCommand_throw err
  | ok cmd => exact (issuesCommand_issue hr).bind_reads hread

end

end Card

/-! ## Requests -/

/-- The request issues one command in the session that it finds. -/
def Request.isCommand : Request → Bool
  | startFirst _ | finishFirst _ _ | authenticate _ _ _ | reauthenticate _ _ _ => false
  | authenticateLegacy _ _ _ | select _ | updateKey _ _ => false
  | _ => true

namespace Card

theorem issuesCommand_perform (c : Card) {r : Request} (hr : r.isCommand = true) :
    c.IssuesCommand r (perform r) := by
  cases r with
  | startFirst | finishFirst | authenticate | reauthenticate | authenticateLegacy => cases hr
  | select | updateKey => cases hr
  | issue cmd => exact (issuesCommand_issue rfl).map _
  | applicationIds => exact (issuesCommand_macIfSession rfl fun _ => Action.reads_liftM _).map _
  | version => exact (issuesCommand_macIfSession rfl fun _ => Action.reads_liftM _).map _
  | uid =>
    refine IssuesCommand.map (issuesCommand_get ?_) _
    exact (issuesCommand_issue rfl).bind_reads fun _ => Action.reads_liftM _
  | keySettings => exact (issuesCommand_macIfSession rfl fun _ => Action.reads_liftM _).map _
  | replaceKeySettings settings =>
    refine IssuesCommand.bind_reads ?_ fun _ => Action.reads_pure _
    exact (issuesCommand_issue rfl).bind_reads fun _ => Action.reads_pure _
  | keyVersion keyNo => exact (issuesCommand_macIfSession rfl fun _ => Action.reads_liftM _).map _
  | readRange file offset length mode =>
    exact (issuesCommand_liftM rfl fun data => Action.reads_get_liftM _).map _
  | writeRange file offset data mode =>
    exact (issuesCommand_liftM rfl fun _ => Action.reads_pure _).bind_reads
      fun _ => Action.reads_pure _
  | commit =>
    exact (issuesCommand_macIfSession rfl fun _ => Action.reads_pure _).bind_reads
      fun _ => Action.reads_pure _
  | format =>
    refine IssuesCommand.bind_reads (issuesCommand_get ?_) fun _ => Action.reads_pure _
    by_cases happ : c.application = Aid.card
    · rw [if_neg (not_not.mpr happ)]
      by_cases hnone : c.session.isNone = true
      · rw [if_pos hnone]
        exact issuesCommand_throw _
      · rw [if_neg hnone]
        have hcmd : c.command? .format = some { code := 0xFC, mode := .mac } := if_pos happ
        exact (issuesCommand_issue hcmd).bind_reads fun _ => Action.reads_pure _
    · rw [if_pos happ]
      exact issuesCommand_throw _
  | configure option data =>
    refine IssuesCommand.bind_reads ?_ fun _ => Action.reads_pure _
    exact (issuesCommand_issue rfl).bind_reads fun _ => Action.reads_pure _

end Card

end CardLink

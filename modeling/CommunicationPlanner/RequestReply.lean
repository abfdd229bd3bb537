import Mathlib.Data.List.Basic
import Mathlib.Data.List.Forall2
import Mathlib.Data.List.Induction

/-!
# Connections that answer one request at a time

A connection is opened with a greeting and then alternates between a request
and its reply until it is closed; beside the replies frames may be pushed at
any time.  `Session` is the protocol: which marks may pass over a connection,
and the phase they leave it in.  `Session.paired` reads a session as two lists,
the requests and the replies, in which the replies answer the requests one for
one and at most the last request is still owed its reply.
-/

namespace RequestReply

variable {Request Reply : Type}

/-- What passes over a connection. -/
inductive Mark (Request Reply : Type) where
  | opened
  | request (request : Request)
  | reply (reply : Reply)
  | pushed
  | closed

/-- Whether a connection is open, and whether it is owed a reply. -/
inductive Phase (Request : Type) where
  | closed
  | idle
  | owing (request : Request)

/-- One mark takes the connection from one phase to another. -/
inductive Advance (answers : Request → Reply → Prop) :
    Phase Request → Mark Request Reply → Phase Request → Prop where
  | opened :
      Advance answers .closed .opened .idle
  | request (request : Request) :
      Advance answers .idle (.request request) (.owing request)
  | reply
      {request : Request}
      {reply : Reply}
      (answered : answers request reply) :
      Advance answers (.owing request) (.reply reply) .idle
  | pushed (phase : Phase Request) :
      Advance answers phase .pushed phase
  | closed :
      Advance answers .idle .closed .closed

/-- The marks of a connection, from one phase to another. -/
inductive Session (answers : Request → Reply → Prop)
    (initial : Phase Request) :
    List (Mark Request Reply) → Phase Request → Prop where
  | nil :
      Session answers initial [] initial
  | snoc
      {marks : List (Mark Request Reply)}
      {phase final : Phase Request}
      {mark : Mark Request Reply}
      (earlier : Session answers initial marks phase)
      (last : Advance answers phase mark final) :
      Session answers initial (marks ++ [mark]) final

/-- The request that a mark is. -/
def Mark.request? : Mark Request Reply → Option Request
  | .request asked => some asked
  | _ => none

/-- The reply that a mark is. -/
def Mark.reply? : Mark Request Reply → Option Reply
  | .reply answer => some answer
  | _ => none

/-- The request that a phase still owes a reply to. -/
def Phase.owed : Phase Request → List Request
  | .owing request => [request]
  | _ => []

/-- The requests among the marks, in their order. -/
def requests (marks : List (Mark Request Reply)) : List Request :=
  marks.filterMap Mark.request?

/-- The replies among the marks, in their order. -/
def replies (marks : List (Mark Request Reply)) : List Reply :=
  marks.filterMap Mark.reply?

/-- The requests of two parts are those of the one and the other. -/
theorem requests_append (marks later : List (Mark Request Reply)) :
    requests (marks ++ later) = requests marks ++ requests later :=
  List.filterMap_append

/-- The replies of two parts are those of the one and the other. -/
theorem replies_append (marks later : List (Mark Request Reply)) :
    replies (marks ++ later) = replies marks ++ replies later :=
  List.filterMap_append

theorem requests_snoc
    (marks : List (Mark Request Reply))
    (mark : Mark Request Reply) :
    requests (marks ++ [mark]) = requests marks ++ mark.request?.toList := by
  rw [requests_append]
  cases mark <;> rfl

theorem replies_snoc
    (marks : List (Mark Request Reply))
    (mark : Mark Request Reply) :
    replies (marks ++ [mark]) = replies marks ++ mark.reply?.toList := by
  rw [replies_append]
  cases mark <;> rfl

section

variable
  {answers : Request → Reply → Prop}
  {initial middle final : Phase Request}
  {marks later : List (Mark Request Reply)}

namespace Session

/-- One mark is a session. -/
theorem single
    {mark : Mark Request Reply}
    (advance : Advance answers initial mark final) :
    Session answers initial [mark] final :=
  Session.nil.snoc advance

/-- A session may go on from where another has come. -/
theorem append
    (first : Session answers initial marks middle)
    (second : Session answers middle later final) :
    Session answers initial (marks ++ later) final := by
  induction second with
  | nil =>
      rw [List.append_nil]
      exact first
  | snoc earlier last inductionHypothesis =>
      rw [← List.append_assoc]
      exact inductionHypothesis.snoc last

/-- Frames that are pushed leave the phase alone. -/
theorem pushed
    (phase : Phase Request)
    (onlyPushed : ∀ mark ∈ marks, mark = .pushed) :
    Session answers phase marks phase := by
  induction marks using List.reverseRecOn with
  | nil =>
      exact .nil
  | append_singleton earlier mark inductionHypothesis =>
      have isPushed : mark = .pushed := onlyPushed mark (by simp)
      subst isPushed
      refine (inductionHypothesis ?_).snoc (.pushed phase)
      intro other member
      exact onlyPushed other (by simp [member])

/-- The replies answer the requests one for one, but for one that is owed. -/
theorem paired
    (session : Session answers .closed marks final) :
    ∃ served,
      requests marks = served ++ final.owed ∧
        List.Forall₂ answers served (replies marks) := by
  induction session with
  | nil =>
      exact ⟨[], rfl, .nil⟩
  | snoc earlier last inductionHypothesis =>
      obtain ⟨served, asked, answered⟩ := inductionHypothesis
      rw [requests_snoc, replies_snoc]
      cases last with
      | opened | closed =>
          exact ⟨served, by simpa [Mark.request?, Phase.owed] using asked,
            by simpa [Mark.reply?] using answered⟩
      | pushed =>
          exact ⟨served, by simpa [Mark.request?] using asked,
            by simpa [Mark.reply?] using answered⟩
      | request request =>
          refine ⟨served, ?_, by simpa [Mark.reply?] using answered⟩
          rw [asked]
          simp [Mark.request?, Phase.owed]
      | @reply request reply isAnswer =>
          refine ⟨served ++ [request], ?_, ?_⟩
          · rw [asked]
            simp [Mark.request?, Phase.owed]
          · exact List.rel_append answered (.cons isAnswer .nil)

end Session

/-- Every phase owes at most one reply. -/
theorem Phase.length_owed_le (phase : Phase Request) :
    phase.owed.length ≤ 1 := by
  cases phase <;> simp [Phase.owed]

end

end RequestReply

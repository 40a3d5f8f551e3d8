import Mathlib.Data.List.Forall2
import Pinpoint.Session

/-! The log of a session. A request leaves a notice exactly if it asks for a listing and is told
that there is none, so the log can be read off the requests and the replies. A notice about a text
with a line says that the text has no such line. -/
namespace Pinpoint

namespace Diagnostic

/-- There is no listing exactly if there is no excerpt, and then a notice is left. -/
theorem listing?_eq_none_iff {d : Diagnostic} {border : UInt64} {log log' : List Notice} :
    (d.listing? border).run log = (.ok none, log') ↔
      d.excerpt? border = .ok none ∧ log' = log ++ [d.notice border] := by
  unfold listing?
  cases d.excerpt? border with
  | error why =>
    constructor
    · intro same
      cases same
    · rintro ⟨same, -⟩
      cases same
  | ok found =>
    cases found with
    | some e =>
      constructor
      · intro same
        cases same
      · rintro ⟨same, -⟩
        cases same
    | none =>
      constructor
      · intro same
        cases same
        exact ⟨rfl, rfl⟩
      · rintro ⟨-, rfl⟩
        rfl

/-- Of a text that is there, exactly the lines that it does not have give no excerpt. -/
theorem excerpt?_eq_none_iff {d : Diagnostic} {text : String} {line : UInt64}
    (whole : d.site.text = some text) (claim : d.site.line = some line)
    (storable : Text.Storable text) (border : UInt64) :
    d.excerpt? border = .ok none ↔ line = 0 ∨ (Text.lines text).length < line.toNat := by
  have zero : line = 0 ↔ line.toNat = 0 := by
    rw [← UInt64.toNat_inj, UInt64.toNat_zero]
  rw [excerpt?, whole, claim, Excerpt.around?_eq line border storable.length_lines_lt,
    Except.ok.injEq, ite_eq_right_iff, zero]
  simp only [reduceCtorEq, imp_false, not_and_or]
  omega

end Diagnostic

namespace Session

def Request.asked? : Request → Option (Diagnostic × UInt64)
  | .listing d border => some (d, border)
  | .defaultListing d => some (d, 2)
  | .summary _ | .excerpt _ _ | .display _ => none

def Reply.isNoListing : Reply → Bool
  | .listing (.ok none) => true
  | _ => false

/-- What has to be noted of a request with this reply. -/
def noted (request : Request) (reply : Reply) : Option Notice :=
  match request.asked? with
  | some (d, border) =>
    if reply.isNoListing then
      some ⟨d.site.line, border, d.site.name, d.site.text.isSome⟩
    else none
  | none => none

def Answers (request : Request) (reply : Reply) : Prop :=
  ∃ before after, (answer request).run before = (reply, after)

theorem run_cons {request : Request} {requests : List Request} {reply : Reply}
    {replies : List Reply} {before between after : List Notice}
    (first : (answer request).run before = (reply, between))
    (others : (run requests).run between = (replies, after)) :
    (run (request :: requests)).run before = (reply :: replies, after) := by
  rw [run] at others
  rw [run, List.mapM_cons, StateT.run_bind, first]
  change (requests.mapM answer >>= fun replies => pure (reply :: replies)).run between = _
  rw [StateT.run_bind, others]
  rfl

theorem isNoListing_iff {reply : Reply} :
    reply.isNoListing = true ↔ reply = .listing (.ok none) := by
  unfold Reply.isNoListing
  split
  · simp
  · rename_i other
    simpa using other

/-- Both requests for a listing are answered with the listing. -/
theorem answer_of_asked {request : Request} {d : Diagnostic} {border : UInt64}
    (asked : request.asked? = some (d, border)) (log : List Notice) :
    (answer request).run log =
      (.listing ((d.listing? border).run log).1, ((d.listing? border).run log).2) := by
  cases request with
  | summary | excerpt | display => cases asked
  | listing | defaultListing =>
    cases asked
    rfl

/-- One request adds to the log what has to be noted of it, and nothing else. -/
theorem log_of_answer (request : Request) (log : List Notice) :
    ((answer request).run log).2 =
      log ++ (noted request ((answer request).run log).1).toList := by
  cases asked : request.asked? with
  | none =>
    rw [noted, asked, Option.toList_none, List.append_nil]
    cases request with
    | summary | excerpt | display => rfl
    | listing | defaultListing => cases asked
  | some of =>
    obtain ⟨d, border⟩ := of
    rw [answer_of_asked asked, noted, asked]
    dsimp only
    unfold Diagnostic.listing?
    split
    · exact (List.append_nil log).symm
    · exact (List.append_nil log).symm
    · rfl

theorem exists_answer (request : Request) (log : List Notice) :
    ∃ reply, (answer request).run log = (reply, log ++ (noted request reply).toList) :=
  ⟨_, Prod.ext rfl (log_of_answer request log)⟩

/-- A whole session adds to the log what has to be noted of its requests, in their order. -/
theorem log_of_run (requests : List Request) (log : List Notice) :
    ∃ replies, List.Forall₂ Answers requests replies ∧
      (run requests).run log =
        (replies, log ++ (requests.zip replies).filterMap fun p => noted p.1 p.2) := by
  induction requests generalizing log with
  | nil =>
    refine ⟨[], .nil, ?_⟩
    rw [List.zip_nil_right, List.filterMap_nil, List.append_nil]
    rfl
  | cons request requests ih =>
    obtain ⟨reply, first⟩ := exists_answer request log
    obtain ⟨replies, answers, others⟩ := ih (log ++ (noted request reply).toList)
    refine ⟨reply :: replies, .cons ⟨log, _, first⟩ answers, ?_⟩
    rw [run_cons first others, List.zip_cons_cons, List.append_assoc]
    cases note : noted request reply <;> simp [note]

/-- Only a request for a listing that is told that there is none has to be noted. -/
theorem noted_eq_some_iff {request : Request} {reply : Reply} {notice : Notice} :
    noted request reply = some notice ↔ ∃ d border, request.asked? = some (d, border) ∧
      reply.isNoListing = true ∧ d.notice border = notice := by
  unfold noted
  cases request.asked? with
  | none => simp
  | some asked =>
    obtain ⟨d, border⟩ := asked
    simp [Diagnostic.notice]

/-- A request that is told that there is no listing asks for one of a diagnostic without an
excerpt. -/
theorem excerpt?_eq_none_of_answers {request : Request} {reply : Reply}
    (answers : Answers request reply) {d : Diagnostic} {border : UInt64}
    (asked : request.asked? = some (d, border)) (refused : reply.isNoListing = true) :
    d.excerpt? border = .ok none := by
  obtain ⟨before, after, made⟩ := answers
  rw [answer_of_asked asked, isNoListing_iff.mp refused] at made
  obtain ⟨none, -⟩ := Prod.mk.inj made
  exact (Diagnostic.listing?_eq_none_iff.mp (Prod.ext (Reply.listing.inj none) rfl)).1

/-- The notices of a session are those of the requests for a listing that are told that there is
none. One about a text and a line of it says that the text does not have this line. -/
theorem run_log (requests : List Request) (log : List Notice) :
    ∃ replies, List.Forall₂ Answers requests replies ∧
      (run requests).run log =
        (replies, log ++ (requests.zip replies).filterMap fun p => noted p.1 p.2) ∧
      ∀ p ∈ requests.zip replies, ∀ notice, noted p.1 p.2 = some notice →
        notice.hasText = true → ∀ line, notice.line = some line →
        ∃ d border text, p.1.asked? = some (d, border) ∧ d.site.text = some text ∧
          (Text.Storable text → line = 0 ∨ (Text.lines text).length < line.toNat) := by
  obtain ⟨replies, answers, made⟩ := log_of_run requests log
  refine ⟨replies, answers, made, ?_⟩
  rintro ⟨request, reply⟩ there notice note hasText line claim
  obtain ⟨d, border, asked, refused, rfl⟩ := noted_eq_some_iff.mp note
  obtain ⟨text, whole⟩ := Option.isSome_iff_exists.mp hasText
  have none := excerpt?_eq_none_of_answers ((List.forall₂_iff_zip.mp answers).2 there) asked refused
  exact ⟨d, border, text, asked, whole,
    fun storable => (Diagnostic.excerpt?_eq_none_iff whole claim storable border).mp none⟩

def beyond : Diagnostic :=
  ⟨"bad value", ⟨some 3, none, some "a\n\n", some "x"⟩⟩

/-- Requests about a line beyond the end, about nothing that is known, and about a line that is
there. -/
def visits : List Request :=
  [.summary beyond, .listing beyond 7, .excerpt beyond 0, .defaultListing ⟨"lost", {}⟩,
    .listing ⟨"bad value", ⟨some 1, none, some "a", none⟩⟩ 0]

theorem run_log_visits :
    Text.Storable "a\n\n" ∧
      ((run visits).run []).2 = [⟨some 3, 7, some "x", true⟩, ⟨none, 2, none, false⟩] ∧
      ((3 : UInt64) = 0 ∨ (Text.lines "a\n\n").length < (3 : UInt64).toNat) := by
  have storable : Text.Storable "a\n\n" := by decide
  obtain ⟨replies, -, made, absent⟩ := run_log visits []
  have computed : (run visits).run [] =
      ([.summary "bad value in x:3", .listing (.ok none), .excerpt (.ok none), .listing (.ok none),
        .listing (.ok (some ⟨⟨1, ["a"], 0⟩, none, none⟩))],
        [⟨some 3, 7, some "x", true⟩, ⟨none, 2, none, false⟩]) := by
    rfl
  obtain ⟨rfl, -⟩ := Prod.mk.inj (computed.symm.trans made)
  obtain ⟨_, _, _, asked, whole, none⟩ := absent (.listing beyond 7, .listing (.ok none))
    (by simp [visits]) _ rfl rfl 3 rfl
  cases asked
  cases whole
  exact ⟨storable, (congrArg Prod.snd made).trans rfl, none storable⟩

end Session
end Pinpoint

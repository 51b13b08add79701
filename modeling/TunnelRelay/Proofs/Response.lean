import TunnelRelay.Proofs.Closing
/-!
# One response or nothing

A responder writes at most once, as the last thing it does before it closes its
leg: it returns true if it has written the response, and has written nothing
otherwise. The response depends on the request in one point only, whatever its
version and its headers ask for: a `HEAD` request gets no body.

A cancellation that comes while the leg is being closed is the exception: it
takes the place of what the responder would have returned
(`answered_yet_cancelled`).

The invariant says for each stage what has been written (`Serves`): nothing
while the responder is at work, and from the close on what its ending tells. A
fault of reading or writing is not among the endings, and the leg is closed at
all of them.
-/

namespace TunnelRelay

namespace Gateway

variable {g : Gateway} {act : Act} {acts : List Act} {events message : List Event}
variable {result : Gateway × List Event} {heard : Bytes} {written : List Bytes} {leg : Leg}
variable {reason : String} {subject : Log.Subject} {ending : Ending Bool} {request : Http.Request}

/-! ## The text of the response -/

theorem length_toList (bytes : ByteArray) : bytes.toList.length = bytes.size := by
  have hloop (i : Nat) (read : List UInt8) (hi : i ≤ bytes.size) :
      (ByteArray.toList.loop bytes i read).length = bytes.size - i + read.length := by
    fun_induction ByteArray.toList.loop bytes i read with
    | case1 i read hlt ih =>
      rw [ih hlt, List.length_cons]
      omega
    | case2 i read hge =>
      rw [List.length_reverse]
      omega
  exact hloop 0 [] (Nat.zero_le _)

/-- A text has as many bytes as its size in UTF-8. -/
theorem length_utf8 (s : String) : (utf8 s).length = s.utf8ByteSize :=
  (length_toList s.toUTF8).trans String.size_toByteArray

/-- What the body says. -/
def bodyText (reason : String) : String := "failed to dial backend: " ++ reason

/-- **The lines of the head**: the status, three headers, and the empty line. -/
def headLines (length : Nat) : List String :=
  [ "HTTP/1.1 502 Bad Gateway",
    "Content-Type: text/plain; charset=utf-8",
    "Content-Length: " ++ toString length,
    "Connection: close",
    "" ]

/-- The lines of the head, each with its end. -/
def headText (length : Nat) : String := String.join ((headLines length).map (· ++ "\r\n"))

theorem responseHead_eq (length : Nat) : responseHead length = utf8 (headText length) := by
  have hstatus : "HTTP/1.1 502 Bad Gateway\r\n" = "HTTP/1.1 502 Bad Gateway" ++ "\r\n" := by decide
  have htype : "Content-Type: text/plain; charset=utf-8\r\n" =
      "Content-Type: text/plain; charset=utf-8" ++ "\r\n" := by
    decide
  have hlast : "Connection: close\r\n\r\n" = "Connection: close" ++ ("\r\n" ++ "\r\n") := by decide
  unfold responseHead
  rw [hstatus, htype, hlast]
  simp only [headText, headLines, List.map_cons, List.map_nil, String.join, List.foldl_cons,
    List.foldl_nil, String.append_assoc, String.empty_append]

/-- **The response, byte for byte.** Its length is that of the body in UTF-8,
also where the body is left out. -/
theorem response_eq (reason : String) (request : Http.Request) :
    response (body reason) request =
      utf8 (headText (bodyText reason).utf8ByteSize) ++
        if request.method = Http.asciiBytes "HEAD" then [] else utf8 (bodyText reason) := by
  have hbody : body reason = utf8 (bodyText reason) := rfl
  rw [response, hbody, length_utf8, responseHead_eq]

/-! ## What has been written -/

/-- The bytes of a write. -/
def Event.write? : Event → Option Bytes
  | .leg (.wrote data) => some data
  | .leg .closed | .log _ => none

/-- The writes that succeeded, in order. -/
def writes (events : List Event) : List Bytes := events.filterMap Event.write?

theorem writes_append (events more : List Event) :
    writes (events ++ more) = writes events ++ writes more :=
  List.filterMap_append

/-- Closing the leg, or what happens to it from outside, is no write. -/
theorem writes_legs {quiet : List Leg.Event} (hquiet : ∀ data, .wrote data ∉ quiet) :
    writes (quiet.map .leg) = [] := by
  rw [writes, List.filterMap_map, List.filterMap_eq_nil_iff]
  intro e he
  cases e with
  | wrote data => exact absurd he (hquiet data)
  | closed => rfl

/-- The bytes that the client sends by an action. -/
def Act.sent : Act → Bytes
  | .peer act => act.sent
  | .advance | .cancel => []

/-- All that the client has sent: what waited on its leg, and what it has sent
since. -/
def sentBy (leg : Leg) (acts : List Act) : Bytes := leg.queued ++ acts.flatMap Act.sent

/-- At most one write has been made, of the response. -/
def Once (reason : String) (heard : Bytes) (written : List Bytes) : Prop :=
  written = [] ∨ ∃ data, written = [data] ∧ Answer reason heard data

/-- **What an ending tells of the writes**, if the responder was not cancelled: it
returns true after the response, and false, or with a fault that is none of
reading or writing, after nothing. -/
def Tells (reason : String) (heard : Bytes) (written : List Bytes) : Ending Bool → Prop
  | .returned true => ∃ data, written = [data] ∧ Answer reason heard data
  | .returned false => written = []
  | .raised fault => fault.kind.isStream = false ∧ written = []
  | .group _ | .cancelled => False

theorem Once.later (h : Once reason heard written) (more : Bytes) :
    Once reason (heard ++ more) written := by
  rcases h with hnone | ⟨data, hdata, hanswer⟩
  · exact Or.inl hnone
  · exact Or.inr ⟨data, hdata, hanswer.mono (List.prefix_append _ _)⟩

theorem Tells.later (h : Tells reason heard written ending) (more : Bytes) :
    Tells reason (heard ++ more) written ending := by
  unfold Tells at h ⊢
  split at h
  · obtain ⟨data, hdata, hanswer⟩ := h
    exact ⟨data, hdata, hanswer.mono (List.prefix_append _ _)⟩
  all_goals exact h

theorem Tells.once (h : Tells reason heard written ending) : Once reason heard written := by
  unfold Tells at h
  split at h
  · exact Or.inr h
  · exact Or.inl h
  · exact Or.inl h.2
  · cases h
  · cases h

/-- A responder that tells of its writes has returned true exactly if there are any. -/
theorem Tells.returned_iff (h : Tells reason heard written ending) :
    ending = .returned true ↔ written ≠ [] := by
  unfold Tells at h
  split at h
  · obtain ⟨data, rfl, -⟩ := h
    simp
  · simp [h]
  · simp [h.2]
  · cases h
  · cases h

/-- **What a responder has written**, and whether it was cancelled. -/
def Serves (g : Gateway) (acts : List Act) (heard : Bytes) (written : List Bytes) : Prop :=
  match g.stage with
  | .reading | .writing _ => .cancel ∉ acts ∧ g.Follows heard ∧ written = []
  | .closing ending => .cancel ∉ acts ∧ g.leg.closed = true ∧ Tells g.reason heard written ending
  | .ended ending => g.leg.closed = true ∧
      (.cancel ∉ acts ∧ Tells g.reason heard written ending ∨
        .cancel ∈ acts ∧ ending = .cancelled ∧ Once g.reason heard written)

/-! ## Every step -/

/-- A responder at work has written nothing, and follows its client. -/
theorem serves_iff_of_open (hopen : g.stage.isOver = false) :
    g.Serves acts heard written ↔ .cancel ∉ acts ∧ g.Follows heard ∧ written = [] := by
  unfold Serves
  cases hstage : g.stage with
  | reading | writing data => exact Iff.rfl
  | closing ending | ended ending =>
    rw [hstage] at hopen
    cases hopen

theorem serves_iff_of_closing (hclosing : g.stage = .closing ending) :
    g.Serves acts heard written ↔
      .cancel ∉ acts ∧ g.leg.closed = true ∧ Tells g.reason heard written ending := by
  simp only [Serves, hclosing]

theorem serves_iff_of_ended (hended : g.stage = .ended ending) :
    g.Serves acts heard written ↔ g.leg.closed = true ∧
      (.cancel ∉ acts ∧ Tells g.reason heard written ending ∨
        .cancel ∈ acts ∧ ending = .cancelled ∧ Once g.reason heard written) := by
  simp only [Serves, hended]

/-- **Closing the leg** settles how the responder ends. -/
theorem serves_finish (hleg : g.leg.Closable) (hacts : .cancel ∉ acts)
    (hmessage : Tells g.reason heard (writes message) ending) :
    (g.finish ending message).1.Serves acts heard (writes (g.finish ending message).2) := by
  have hclosing : (g.finish ending message).1.stage = .closing ending := by
    simp [finish, Leg.closeFault?_eq_none hleg.noFault]
  have hwrites : writes (g.finish ending message).2 = writes message := by
    rw [finish, writes_append, writes_legs (Leg.wrote_not_mem_closeEvents g.leg), List.append_nil]
  exact (serves_iff_of_closing hclosing).mpr ⟨hacts, hleg.closed_closeNow, hwrites ▸ hmessage⟩

/-- A fault of reading or writing ends the responder, and does not leave it. -/
theorem serves_fail (hleg : g.leg.Closable) (hacts : .cancel ∉ acts) (fault : Fault) :
    (g.fail fault).1.Serves acts heard (writes (g.fail fault).2) := by
  unfold fail
  split
  · exact serves_finish hleg hacts rfl
  · rename_i hother
    exact serves_finish hleg hacts ⟨by simpa using hother, rfl⟩

/-- A responder that is cancelled where it reads or writes has written nothing. -/
theorem serves_stop (hleg : g.leg.Closable) (hacts : .cancel ∈ acts) :
    g.stop.1.Serves acts heard (writes g.stop.2) := by
  have hended : g.stop.1.stage = .ended .cancelled := by
    simp [stop, Leg.closeFault?_eq_none hleg.noFault]
  have hwrites : writes g.stop.2 = [] := writes_legs (Leg.wrote_not_mem_closeEvents g.leg)
  exact (serves_iff_of_ended hended).mpr
    ⟨hleg.closed_closeNow, Or.inr ⟨hacts, rfl, Or.inl hwrites⟩⟩

/-- The client sends more, or changes its leg in another way. -/
theorem serves_peer (h : g.Serves acts heard written) (own : Leg.Act) :
    { g with leg := (g.leg.apply own).1 }.Serves (acts ++ [Act.peer own]) (heard ++ own.sent)
      written := by
  have hacts : Act.cancel ∈ acts ++ [Act.peer own] ↔ .cancel ∈ acts := by simp
  have hfollows (hbefore : g.Follows heard) :
      { g with leg := (g.leg.apply own).1 }.Follows (heard ++ own.sent) :=
    hbefore.arrive Leg.queued_apply
  unfold Serves at h ⊢
  rw [hacts]
  cases hstage : g.stage with
  | reading | writing data =>
    simp only [hstage] at h hfollows ⊢
    exact ⟨h.1, hfollows h.2.1, h.2.2⟩
  | closing ending =>
    simp only [hstage] at h ⊢
    exact ⟨h.1, Leg.closed_apply h.2.1, h.2.2.later _⟩
  | ended ending =>
    simp only [hstage] at h ⊢
    refine ⟨Leg.closed_apply h.1, h.2.imp ?_ ?_⟩
    · exact fun ⟨hcalm, htells⟩ => ⟨hcalm, htells.later _⟩
    · exact fun ⟨hcancelled, hending, honce⟩ => ⟨hcancelled, hending, honce.later _⟩

/-- **Every step of a responder serves**: it writes nothing and goes on or gives
up, or writes the response and closes its leg; and then it ends. -/
theorem serves_passage (hleg : g.leg.Closable) (h : g.Serves acts heard written)
    (hp : Passage g act result) :
    result.1.Serves (acts ++ [act]) heard (written ++ writes result.2) := by
  -- what a step of an open responder finds
  have hbefore (hopen : g.stage.isOver = false) (hact : act ≠ .cancel) :
      g.Follows heard ∧ written = [] ∧ .cancel ∉ acts ++ [act] := by
    obtain ⟨hcalm, hfollows, hnone⟩ := (serves_iff_of_open hopen).mp h
    exact ⟨hfollows, hnone, by simp [hcalm, hact.symm]⟩
  have hlast : Act.cancel ∈ acts ++ [.cancel] := List.mem_append_right _ (List.mem_singleton_self _)
  cases hp with
  | listen hstage hread hverdict =>
    obtain ⟨hfollows, rfl, hcalm⟩ := hbefore (by rw [hstage]; rfl) nofun
    rcases follows_step hfollows (.listen hstage hread hverdict) with ⟨hopen, hnext, -⟩ | ⟨hover, -⟩
    · exact (serves_iff_of_open hopen).mpr ⟨hcalm, hnext, rfl⟩
    · simp [hstage, Stage.isOver] at hover
  | settle hstage hread hverdict =>
    obtain ⟨hfollows, rfl, hcalm⟩ := hbefore (by rw [hstage]; rfl) nofun
    rcases follows_step hfollows (.settle hstage hread hverdict) with ⟨hopen, hnext, -⟩ | ⟨hover, -⟩
    · exact (serves_iff_of_open hopen).mpr ⟨hcalm, hnext, rfl⟩
    · cases hover
  | decline hstage hread =>
    obtain ⟨-, rfl, hcalm⟩ := hbefore (by rw [hstage]; rfl) nofun
    exact serves_finish (hleg.of_like (Leg.closesLike_receive hread)) hcalm rfl
  | unread hstage | unsent hstage =>
    obtain ⟨-, rfl, hcalm⟩ := hbefore (by rw [hstage]; rfl) nofun
    exact serves_fail hleg hcalm _
  | @answer data hstage hsend =>
    obtain ⟨hfollows, rfl, hcalm⟩ := hbefore (by rw [hstage]; rfl) nofun
    simp only [Follows, hstage] at hfollows
    exact serves_finish hleg hcalm ⟨data, rfl, hfollows⟩
  | stop hopen =>
    obtain ⟨-, -, rfl⟩ := (serves_iff_of_open hopen).mp h
    exact serves_stop hleg hlast
  | leave hclosing =>
    obtain ⟨hcalm, hclosed, htells⟩ := (serves_iff_of_closing hclosing).mp h
    rw [writes, List.filterMap_nil, List.append_nil]
    exact ⟨hclosed, Or.inl ⟨by simp [hcalm], htells⟩⟩
  | interrupt hclosing =>
    obtain ⟨-, hclosed, htells⟩ := (serves_iff_of_closing hclosing).mp h
    rw [writes, List.filterMap_nil, List.append_nil]
    exact ⟨hclosed, Or.inr ⟨hlast, rfl, htells.once⟩⟩

theorem serves_step (hleg : g.leg.Closable) (h : g.Serves acts heard written)
    (hstep : g.step act = some result) :
    result.1.leg.Closable ∧ result.1.reason = g.reason ∧
      result.1.Serves (acts ++ [act]) (heard ++ act.sent) (written ++ writes result.2) := by
  cases act with
  | peer own =>
    obtain rfl : ({ g with leg := (g.leg.apply own).1 }, (g.leg.apply own).2.map .leg) = result :=
      Option.some.inj hstep
    have hquiet := writes_legs (Leg.wrote_not_mem_apply g.leg own)
    refine ⟨hleg.of_like (Leg.closesLike_apply _ _), rfl, ?_⟩
    rw [hquiet, List.append_nil]
    exact serves_peer h own
  | advance | cancel =>
    have hp := passage_of_step (fun _ => by simp) hstep
    refine ⟨hleg.of_like (closesLike_of_passage hp), reason_of_passage hp, ?_⟩
    simpa only [Act.sent, List.append_nil] using serves_passage hleg h hp

/-- So does every run. -/
theorem serves_run (h : machine.run { leg, reason, subject } acts = some (g, events))
    (hleg : leg.Closable) :
    g.leg.Closable ∧ g.reason = reason ∧ g.Serves acts (sentBy leg acts) (writes events) := by
  refine Machine.run_induction (P := fun g acts events =>
    g.leg.Closable ∧ g.reason = reason ∧ g.Serves acts (sentBy leg acts) (writes events)) ?_ ?_ h
  · have hfresh : ({ leg, reason, subject } : Gateway).Follows (sentBy leg []) :=
      List.append_nil leg.queued
    exact ⟨hleg, rfl, nofun, hfresh, rfl⟩
  · rintro g next act acts events more - ⟨hclosable, rfl, hserves⟩ hstep
    have hsent : sentBy leg (acts ++ [act]) = sentBy leg acts ++ act.sent := by
      simp [sentBy, List.flatMap_append, List.append_assoc]
    rw [hsent, writes_append]
    exact serves_step hclosable hserves hstep

theorem Serves.once (h : g.Serves acts heard written) : Once g.reason heard written := by
  unfold Serves at h
  split at h
  · exact Or.inl h.2.2
  · exact Or.inl h.2.2
  · exact h.2.2.once
  · exact h.2.elim (·.2.once) (·.2.2)

/-- How a responder ends, by what has been written and whether it was cancelled. -/
theorem Serves.ends (h : g.Serves acts heard written) (hended : g.stage = .ended ending) :
    (ending = .cancelled ↔ .cancel ∈ acts) ∧
      (ending = .returned true ↔ written ≠ [] ∧ .cancel ∉ acts) ∧
      (ending = .cancelled ∨ (∃ answered, ending = .returned answered) ∨
        ∃ fault, ending = .raised fault ∧ fault.kind.isStream = false) := by
  obtain ⟨-, ⟨hcalm, htells⟩ | ⟨hcancelled, rfl, -⟩⟩ := (serves_iff_of_ended hended).mp h
  · have hiff := htells.returned_iff
    cases ending with
    | returned answered => simpa [hcalm] using hiff
    | raised fault => exact ⟨by simp [hcalm], by simpa [hcalm] using hiff,
        Or.inr (Or.inr ⟨fault, rfl, htells.1⟩)⟩
    | group | cancelled => cases htells
  · simp [hcancelled]

/-! ## The response -/

/-- **One response or nothing.** Let the client send what it may, break off or
refuse to be written to, and let the responder be cancelled at any point: it
writes at most once. What it writes is the response, whatever the request asks
for; only the body is left out, if the method is `HEAD`. When the responder has
ended its leg is closed. It has ended as cancelled if it was cancelled, and else
by returning true if and only if it has written; it has not ended by a fault of
reading or writing. -/
theorem one_response_or_nothing (h : machine.run { leg, reason, subject } acts = some (g, events))
    (hleg : leg.Closable) :
    (writes events).length ≤ 1 ∧
      (∀ data ∈ writes events, ∃ request,
        Http.examine (sentBy leg acts) false = .request request ∧
        data = utf8 (headText (bodyText reason).utf8ByteSize) ++
          if request.method = Http.asciiBytes "HEAD" then [] else utf8 (bodyText reason)) ∧
      ∀ ending, g.stage = .ended ending → g.leg.closed = true ∧
        (ending = .cancelled ↔ .cancel ∈ acts) ∧
        (ending = .returned true ↔ writes events ≠ [] ∧ .cancel ∉ acts) ∧
        (ending = .cancelled ∨ (∃ answered, ending = .returned answered) ∨
          ∃ fault, ending = .raised fault ∧ fault.kind.isStream = false) := by
  obtain ⟨-, rfl, hserves⟩ := serves_run h hleg
  have honce : (writes events).length ≤ 1 := by
    rcases hserves.once with hnone | ⟨data, hdata, -⟩
    · rw [hnone]
      exact Nat.zero_le 1
    · rw [hdata]
      exact Nat.le_refl 1
  refine ⟨honce, fun data hmem => ?_, fun ending hended =>
    ⟨((serves_iff_of_ended hended).mp hserves).1, hserves.ends hended⟩⟩
  rcases hserves.once with hnone | ⟨other, hdata, head, request, hhead, hrequest, rfl⟩
  · rw [hnone] at hmem
    cases hmem
  · rw [hdata, List.mem_singleton] at hmem
    exact ⟨request, Http.examine_of_prefix hrequest hhead false, hmem.trans (response_eq _ _)⟩

/-- A `HEAD` request in two pieces, with headers that ask for more than the
response gives. -/
def headRequest : List Act :=
  [ .peer (.deliver (Http.asciiBytes "HEAD / HTTP/1.1\r\nHost: a\r\nExpe")), .advance,
    .peer (.deliver (Http.asciiBytes "ct: 100-continue\r\n\r\n")), .advance, .advance, .advance ]

theorem headRequest_answered :
    ({} : Leg).Closable ∧ ∃ g events,
      machine.run { leg := {}, reason := "ä" } headRequest = some (g, events) ∧
      g.stage = .ended (.returned true) ∧ g.leg.closed = true ∧
      writes events = [utf8 (headText 26)] := by
  have hleg : ({} : Leg).Closable := ⟨rfl, rfl⟩
  obtain ⟨⟨g, events⟩, h⟩ := Option.isSome_iff_exists.mp
    (show (machine.run { leg := {}, reason := "ä" } headRequest).isSome = true by decide +kernel)
  have hfacts : (machine.run { leg := {}, reason := "ä" } headRequest).all
      (fun r => !(writes r.2).isEmpty && r.1.stage.isEnded) = true := by
    decide +kernel
  rw [h, Option.all_some, Bool.and_eq_true] at hfacts
  have hwrites : writes events ≠ [] := by
    intro hnone
    simp [hnone] at hfacts
  obtain ⟨ending, hended⟩ := Stage.isEnded_iff.mp hfacts.2
  obtain ⟨honce, hresponse, hend⟩ := one_response_or_nothing h hleg
  obtain ⟨data, hdata⟩ : ∃ data, writes events = [data] := by
    cases hcase : writes events with
    | nil => exact absurd hcase hwrites
    | cons data more =>
      rw [hcase, List.length_cons] at honce
      obtain rfl : more = [] := List.eq_nil_of_length_eq_zero (by omega)
      exact ⟨data, rfl⟩
  obtain ⟨request, hrequest, htext⟩ := hresponse data (by simp [hdata])
  have hmethod : request.method = Http.asciiBytes "HEAD" := by
    have hhead : Http.examine (sentBy {} headRequest) false =
        .request { method := Http.asciiBytes "HEAD", target := Http.asciiBytes "/",
                   version := Http.asciiBytes "1.1",
                   headers := [(Http.asciiBytes "Host", Http.asciiBytes "a"),
                     (Http.asciiBytes "Expect", Http.asciiBytes "100-continue")] } := by
      decide +kernel
    rw [hhead] at hrequest
    cases hrequest
    rfl
  have hsize : (bodyText "ä").utf8ByteSize = 26 := by decide +kernel
  rw [if_pos hmethod, List.append_nil, hsize] at htext
  obtain ⟨hclosed, -, hreturned, -⟩ := hend ending hended
  rw [hreturned.mpr ⟨hwrites, by simp [headRequest]⟩] at hended
  exact ⟨hleg, g, events, h, hended, hclosed, hdata.trans (by rw [htext])⟩

/-- A request that is answered at once, and the responder is cancelled while it
closes its leg. -/
def lateCancel : List Act :=
  [ .peer (.deliver (Http.asciiBytes "GET / HTTP/1.1\r\nHost: a\r\n\r\n")),
    .advance, .advance, .cancel ]

/-- **A responder that has written its response may still end cancelled**, so that
nobody learns from it that the client was answered. -/
theorem answered_yet_cancelled :
    ({} : Leg).Closable ∧ ∃ g events,
      machine.run { leg := {}, reason := "gone" } lateCancel = some (g, events) ∧
      g.stage = .ended .cancelled ∧ writes events ≠ [] ∧
      ¬ (g.stage = .ended (.returned true) ↔ writes events ≠ []) := by
  have hleg : ({} : Leg).Closable := ⟨rfl, rfl⟩
  obtain ⟨⟨g, events⟩, h⟩ := Option.isSome_iff_exists.mp
    (show (machine.run { leg := {}, reason := "gone" } lateCancel).isSome = true by decide +kernel)
  have hfacts : (machine.run { leg := {}, reason := "gone" } lateCancel).all
      (fun r => !(writes r.2).isEmpty && r.1.stage.isEnded) = true := by
    decide +kernel
  rw [h, Option.all_some, Bool.and_eq_true] at hfacts
  have hwrites : writes events ≠ [] := by
    intro hnone
    simp [hnone] at hfacts
  obtain ⟨ending, hended⟩ := Stage.isEnded_iff.mp hfacts.2
  obtain ⟨hcancelled, -⟩ := (serves_run h hleg).2.2.ends hended
  rw [hcancelled.mpr (by simp [lateCancel])] at hended
  refine ⟨hleg, g, events, h, hended, hwrites, fun hreturned => ?_⟩
  cases hended.symm.trans (hreturned.mpr hwrites)

end Gateway

end TunnelRelay

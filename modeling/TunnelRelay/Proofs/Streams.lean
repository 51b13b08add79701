import TunnelRelay.Leg
import Mathlib.Tactic.Basic
/-!
# The bytes of a leg

What a peer has sent is in three places: it has been read, it waits on the
leg, or it is still to come. This file says what waits (`Leg.queued`), what
one act of the peer adds (`Leg.Act.sent`), what an event of this side shows as
written (`Leg.Event.written`), and what reading, writing and closing do to
these. The second half is about what they leave as it is: how a leg can be
closed (`Leg.ClosesLike`), and whether it takes writes (`Leg.Writable`).
-/

namespace TunnelRelay

/-! ## Sides -/

theorem Side.eq_or_eq_other (side other : Side) : other = side ∨ other = side.other := by
  cases side <;> cases other <;> simp [Side.other]

@[simp] theorem Side.other_other (side : Side) : side.other.other = side := by
  cases side <;> rfl

@[simp] theorem Side.other_ne (side : Side) : side.other ≠ side := by
  cases side <;> simp [Side.other]

@[simp] theorem Side.ne_other (side : Side) : side ≠ side.other := side.other_ne.symm

theorem Both.ext_get {α : Type} {b c : Both α} (h : ∀ side, b.get side = c.get side) : b = c := by
  obtain ⟨x, y⟩ := b
  obtain ⟨u, v⟩ := c
  rw [Both.mk.injEq]
  exact ⟨h .inbound, h .outbound⟩

theorem Both.set_get {α : Type} (b : Both α) (side : Side) : b.set side (b.get side) = b := by
  cases side <;> rfl

namespace Leg

variable {leg next : Leg} {act : Act} {chunk : Bytes} {max : Nat}

/-! ## What waits, and what was sent -/

/-- The bytes that an arrival brings. -/
def Arrival.bytes : Arrival → Bytes
  | .data chunk => chunk
  | .ended | .broken _ => []

/-- Whether an arrival brings bytes. The others end the stream: by an end, by an
empty chunk, which is read like one, or by a break. -/
def Arrival.isData : Arrival → Bool
  | .data chunk => chunk ≠ []
  | .ended | .broken _ => false

/-- The bytes that have arrived and are not yet read. -/
def queued (leg : Leg) : Bytes := leg.arrivals.flatMap Arrival.bytes

/-- The bytes that the peer sends by an act. -/
def Act.sent : Act → Bytes
  | .deliver data => data
  | _ => []

/-- The bytes that an event shows as written. -/
def Event.written : Event → Bytes
  | .wrote data => data
  | .closed => []

/-- **What the peer sends waits on the leg**, after all that waits there. -/
theorem queued_apply : (leg.apply act).1.queued = leg.queued ++ act.sent := by
  cases act <;> simp [apply, queued, Act.sent, Arrival.bytes]

/-- What an act of the peer makes arrive. -/
def Act.arrivals : Act → List Arrival
  | .deliver data => [.data data]
  | .finish => [.ended]
  | .snap fault => [.broken fault]
  | .refuse _ | .stall | .resume | .close => []

theorem arrivals_apply : (leg.apply act).1.arrivals = leg.arrivals ++ act.arrivals := by
  cases act <;> simp [apply, Act.arrivals]

/-- What is left of the arrivals when at most `max` bytes of the first chunk are
read. -/
def unread (max : Nat) (whole : Bytes) (rest : List Arrival) : List Arrival :=
  if whole.drop max = [] then rest else .data (whole.drop max) :: rest

/-- What a read that gives data has met: an open leg, and on it a chunk or the
end of the stream. -/
theorem receive_data_cases (h : leg.receive max = .data chunk next) :
    leg.closed = false ∧
      ((∃ whole rest, leg.arrivals = .data whole :: rest ∧ chunk = whole.take max ∧
          next = { leg with arrivals := unread max whole rest }) ∨
        (∃ rest, leg.arrivals = .ended :: rest) ∧ chunk = [] ∧ next = leg) := by
  unfold receive at h
  split at h
  · cases h
  · rename_i hopen
    refine ⟨by simpa using hopen, ?_⟩
    split at h
    · cases h
    · rename_i whole rest harrivals
      injection h with hchunk hnext
      exact Or.inl ⟨whole, rest, harrivals, hchunk.symm, hnext.symm⟩
    · rename_i rest harrivals
      injection h with hchunk hnext
      exact Or.inr ⟨⟨rest, harrivals⟩, hchunk.symm, hnext.symm⟩
    · cases h

/-- A chunk that has arrived on an open leg is read. -/
theorem receive_of_data (max : Nat) {whole : Bytes} {rest : List Arrival}
    (hopen : leg.closed = false) (harrivals : leg.arrivals = .data whole :: rest) :
    leg.receive max =
      .data (whole.take max) { leg with arrivals := unread max whole rest } := by
  simp [receive, unread, hopen, harrivals]

/-- A read waits only while nothing has arrived. -/
theorem receive_eq_waiting_iff :
    leg.receive max = .waiting ↔ leg.closed = false ∧ leg.arrivals = [] := by
  unfold receive
  cases hclosed : leg.closed with
  | true => simp
  | false =>
    cases harrivals : leg.arrivals with
    | nil => simp
    | cons arrival rest => cases arrival <;> simp

/-- What a read that fails has met: a closed leg, or a break. -/
theorem receive_fault_cases {fault : Fault} (h : leg.receive max = .fault fault) :
    leg.closed = true ∨ ∃ cause rest, leg.arrivals = .broken cause :: rest := by
  unfold receive at h
  split at h
  · rename_i hclosed
    exact Or.inl hclosed
  · split at h
    · cases h
    · cases h
    · cases h
    · rename_i cause rest harrivals
      exact Or.inr ⟨cause, rest, harrivals⟩

theorem bytes_unread (max : Nat) (whole : Bytes) (rest : List Arrival) :
    (unread max whole rest).flatMap Arrival.bytes =
      whole.drop max ++ rest.flatMap Arrival.bytes := by
  unfold unread
  split
  · rename_i hleft
    rw [hleft, List.nil_append]
  · rfl

/-- **A read takes its chunk from the front**, and takes no more than it was
asked for. -/
theorem queued_of_receive (h : leg.receive max = .data chunk next) :
    leg.queued = chunk ++ next.queued ∧ chunk.length ≤ max := by
  obtain ⟨-, ⟨whole, rest, harrivals, rfl, rfl⟩ | ⟨-, rfl, rfl⟩⟩ := receive_data_cases h
  · refine ⟨?_, List.length_take_le max whole⟩
    rw [queued, queued, bytes_unread, harrivals, List.flatMap_cons, Arrival.bytes,
      ← List.append_assoc, List.take_append_drop]
  · exact ⟨rfl, Nat.zero_le max⟩

@[simp] theorem queued_closeNow : leg.closeNow.queued = leg.queued := by
  unfold closeNow
  split <;> rfl

theorem written_apply {e : Event} (h : e ∈ (leg.apply act).2) : e.written = [] := by
  cases act <;> simp [apply] at h
  rw [h.2]
  rfl

theorem written_closeEvents {e : Event} (h : e ∈ leg.closeEvents) : e.written = [] := by
  unfold closeEvents at h
  split at h
  · cases h
  · rw [List.mem_singleton.mp h]
    rfl

/-- What happens to a leg from outside is no write. -/
theorem wrote_not_mem_apply (leg : Leg) (act : Act) (data : Bytes) :
    .wrote data ∉ (leg.apply act).2 := by
  cases act <;> simp [apply]

/-- Closing a leg is no write. -/
theorem wrote_not_mem_closeEvents (leg : Leg) (data : Bytes) : .wrote data ∉ leg.closeEvents := by
  unfold closeEvents
  split <;> simp

/-! ## What stays as it is -/

/-- A read changes nothing of a leg but what waits there. -/
theorem receive_eq (h : leg.receive max = .data chunk next) :
    next = { leg with arrivals := next.arrivals } := by
  obtain ⟨-, ⟨whole, rest, -, -, rfl⟩ | ⟨-, -, rfl⟩⟩ := receive_data_cases h <;> rfl

/-- Two legs that can be closed in the same way. -/
structure ClosesLike (leg origin : Leg) : Prop where
  fault : leg.closeFault = origin.closeFault
  held : leg.closeHeld = origin.closeHeld

theorem ClosesLike.refl (leg : Leg) : leg.ClosesLike leg := ⟨rfl, rfl⟩

theorem ClosesLike.trans {origin : Leg} (h : next.ClosesLike leg) (h' : leg.ClosesLike origin) :
    next.ClosesLike origin :=
  ⟨h.fault.trans h'.fault, h.held.trans h'.held⟩

/-- **How a leg can be closed is settled when it is made**: nothing that happens
to it, and nothing that is done with it, changes that. -/
theorem closesLike_apply (leg : Leg) (act : Act) : (leg.apply act).1.ClosesLike leg := by
  cases act <;> exact ⟨rfl, rfl⟩

theorem closesLike_receive (h : leg.receive max = .data chunk next) : next.ClosesLike leg := by
  rw [receive_eq h]
  exact ⟨rfl, rfl⟩

theorem closesLike_closeNow (leg : Leg) : leg.closeNow.ClosesLike leg := by
  unfold closeNow
  split <;> exact ⟨rfl, rfl⟩

theorem unread_append (max : Nat) (whole : Bytes) (rest more : List Arrival) :
    unread max whole rest ++ more = unread max whole (rest ++ more) := by
  unfold unread
  split <;> rfl

/-- A leg on which writes succeed, once they are not stalled. -/
structure Writable (leg : Leg) : Prop where
  isOpen : leg.closed = false
  noFault : leg.sendFault = none

/-- A leg is writable until it is closed or the peer refuses what is written. -/
theorem Writable.apply (h : leg.Writable) (hclose : act ≠ .close)
    (hrefuse : ∀ fault, act ≠ .refuse fault) : (leg.apply act).1.Writable := by
  cases act with
  | close => exact absurd rfl hclose
  | refuse fault => exact absurd rfl (hrefuse fault)
  | deliver | finish | snap | stall | resume => exact ⟨h.isOpen, h.noFault⟩

theorem Writable.receive (h : leg.Writable) (hread : leg.receive max = .data chunk next) :
    next.Writable := by
  rw [receive_eq hread]
  exact ⟨h.isOpen, h.noFault⟩

theorem Writable.send_ne_fault (h : leg.Writable) (fault : Fault) : leg.send ≠ .fault fault := by
  simp only [Leg.send, h.isOpen, h.noFault, Bool.false_eq_true, if_false]
  split <;> exact nofun

theorem Writable.send (h : leg.Writable) (hstalled : leg.stalled = false) : leg.send = .sent := by
  simp [Leg.send, h.isOpen, h.noFault, hstalled]

/-- The fault of closing a leg is one that the leg came with. -/
theorem closeFault_of_closeFault? {fault : Fault} (h : leg.closeFault? = some fault) :
    leg.closeFault = some fault := by
  unfold closeFault? at h
  split at h
  · cases h
  · exact h

theorem closeFault?_eq_none (h : leg.closeFault = none) : leg.closeFault? = none := by
  unfold closeFault?
  split
  · rfl
  · exact h

/-! ## Closing -/

/-- What is closed stays closed. -/
theorem closed_apply (h : leg.closed = true) : (leg.apply act).1.closed = true := by
  cases act <;> first | exact h | rfl

/-- A leg is not closed unseen. -/
theorem closed_of_apply (h : (leg.apply act).1.closed = true) :
    leg.closed = true ∨ .closed ∈ (leg.apply act).2 := by
  cases act with
  | close =>
    cases hclosed : leg.closed with
    | true => exact Or.inl rfl
    | false => exact Or.inr (by simp [apply, hclosed])
  | deliver | finish | snap | refuse | stall | resume => exact Or.inl h

theorem closed_of_closeNow (h : leg.closeNow.closed = true) :
    leg.closed = true ∨ .closed ∈ leg.closeEvents := by
  unfold closeNow at h
  split at h
  · exact Or.inl h
  · rename_i hheld
    cases hclosed : leg.closed with
    | true => exact Or.inl rfl
    | false => exact Or.inr (by simp [closeEvents, hclosed, hheld])

theorem closed_of_receive {max : Nat} {chunk : Bytes} (h : leg.receive max = .data chunk next) :
    next.closed = leg.closed := by
  rw [receive_eq h]

end Leg

end TunnelRelay

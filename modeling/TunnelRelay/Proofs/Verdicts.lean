import TunnelRelay.Proofs.Responder
/-!
# What the responder makes of a stream

The responder reads chunk by chunk, and after each chunk looks at all that it
has. It goes on until it comes to a verdict: a request, nothing, or no request
(`ReadsTo`). Whatever the chunks are, the verdict is that on the head alone,
because a beginning of the head is either waited for or refused like the whole
(`examine_partial`). So neither the chunks nor what follows the blank line has
any part in it. In particular every head of at most `headLimit` bytes is heard
(`hears_of_head`).
-/

namespace TunnelRelay

/-! ## What a read takes -/

namespace Leg

variable {leg next : Leg} {chunk : Bytes} {arrivals rest : List Arrival} {max : Nat}

/-- What a read takes of what has arrived, and what it leaves there. -/
def take? (max : Nat) : List Arrival → Option (Bytes × List Arrival)
  | .data whole :: rest => some (whole.take max, unread max whole rest)
  | .ended :: rest => some ([], .ended :: rest)
  | .broken _ :: _ | [] => none

/-- A read takes from the first chunk, or meets the end of the stream. -/
theorem take?_cases (h : take? max arrivals = some (chunk, rest)) :
    (∃ whole more, arrivals = .data whole :: more ∧ chunk = whole.take max ∧
        rest = unread max whole more) ∨
      (∃ more, arrivals = .ended :: more) ∧ chunk = [] ∧ rest = arrivals := by
  unfold take? at h
  split at h
  · rename_i whole more
    obtain ⟨rfl, rfl⟩ := Prod.mk.inj (Option.some.inj h)
    exact Or.inl ⟨whole, more, rfl, rfl, rfl⟩
  · rename_i more
    obtain ⟨rfl, rfl⟩ := Prod.mk.inj (Option.some.inj h)
    exact Or.inr ⟨⟨more, rfl⟩, rfl, rfl⟩
  · cases h
  · cases h

theorem receive_of_take? (hopen : leg.closed = false)
    (h : take? max leg.arrivals = some (chunk, rest)) :
    leg.receive max = .data chunk { leg with arrivals := rest } := by
  rcases take?_cases h with ⟨whole, more, harrivals, rfl, rfl⟩ | ⟨⟨more, harrivals⟩, rfl, rfl⟩
  · exact receive_of_data max hopen harrivals
  · have hread : leg.receive max = .data [] leg := by simp [receive, hopen, harrivals]
    exact hread

theorem take?_of_receive (h : leg.receive max = .data chunk next) :
    take? max leg.arrivals = some (chunk, next.arrivals) := by
  obtain ⟨-, ⟨whole, rest, harrivals, rfl, rfl⟩ | ⟨⟨rest, harrivals⟩, rfl, rfl⟩⟩ :=
    receive_data_cases h
  · rw [harrivals]
    rfl
  · rw [harrivals]
    rfl

/-- What arrives later has no part in a read. -/
theorem take?_append (h : take? max arrivals = some (chunk, rest)) (more : List Arrival) :
    take? max (arrivals ++ more) = some (chunk, rest ++ more) := by
  rcases take?_cases h with ⟨whole, others, rfl, rfl, rfl⟩ | ⟨⟨others, rfl⟩, rfl, rfl⟩
  · rw [unread_append]
    rfl
  · rfl

end Leg

/-! ## Blank lines -/

namespace Http

variable {head buffer stream current : Bytes} {line : Bytes} {lines : List Bytes} {ended : Bool}

/-- A blank line, from the end of the line before it. -/
def blankLines : List Bytes := [[lf, lf], [lf, cr, lf]]

/-- The bytes end in a blank line. -/
def EndsInBlank (head : Bytes) : Prop := ∃ blank ∈ blankLines, blank <:+ head

/-- There is a blank line among the bytes. -/
def HasBlank (stream : Bytes) : Prop := ∃ blank ∈ blankLines, blank <:+: stream

theorem linesFrom_of_blank {before blank : Bytes} (hblank : blank ∈ blankLines) :
    ∃ lines, linesFrom current (before ++ blank) = some lines := by
  have hlast : ∀ blank ∈ blankLines, ∃ rest, blank = lf :: rest ∧ linesFrom [] rest = some [] := by
    simp only [blankLines, List.forall_mem_cons]
    exact ⟨⟨_, rfl, rfl⟩, ⟨_, rfl, rfl⟩, nofun⟩
  obtain ⟨rest, rfl, hrest⟩ := hlast blank hblank
  induction before generalizing current with
  | nil =>
    simp only [List.nil_append, linesFrom, if_true]
    split
    · exact ⟨_, rfl⟩
    · rw [hrest]
      exact ⟨_, rfl⟩
  | cons b before ih =>
    simp only [List.cons_append, linesFrom]
    split
    · split
      · exact ⟨_, rfl⟩
      · obtain ⟨lines, hlines⟩ : ∃ lines, linesFrom [] _ = some lines := ih
        rw [hlines]
        exact ⟨_, rfl⟩
    · exact ih

/-- **A blank line ends a head.** -/
theorem headLines?_of_blank (h : EndsInBlank head) : ∃ lines, headLines? head = some lines := by
  obtain ⟨blank, hblank, before, rfl⟩ := h
  exact linesFrom_of_blank hblank

theorem stripCr_eq_nil (h : stripCr line = []) : line = [] ∨ line = [cr] := by
  unfold stripCr at h
  split at h
  · rename_i hlast
    obtain ⟨before, rfl⟩ := List.getLast?_eq_some_iff.mp hlast
    rw [List.dropLast_concat] at h
    exact Or.inr (by rw [h]; rfl)
  · exact Or.inl h

/-- Where no line comes before the empty one, that is the current line. -/
theorem empty_of_linesFrom (h : linesFrom current buffer = some []) :
    ∃ line more, buffer = line ++ lf :: more ∧ stripCr (current.reverse ++ line) = [] := by
  induction buffer generalizing current with
  | nil => cases h
  | cons b rest ih =>
    simp only [linesFrom] at h
    split at h
    · rename_i hb
      split at h
      · rename_i hcurrent
        exact ⟨[], rest, by rw [hb]; rfl, by rw [List.append_nil]; exact hcurrent⟩
      · obtain ⟨_, _, hcons⟩ := Option.map_eq_some_iff.mp h
        cases hcons
    · obtain ⟨line, more, rfl, hline⟩ := ih h
      exact ⟨b :: line, more, rfl, by simpa using hline⟩

/-- **A head that has lines ends in a blank one.** -/
theorem hasBlank_of_linesFrom (h : linesFrom current buffer = some (line :: lines)) :
    HasBlank buffer := by
  induction buffer generalizing current line lines with
  | nil => cases h
  | cons b rest ih =>
    have hlater (hrest : HasBlank rest) : HasBlank (b :: rest) := by
      obtain ⟨blank, hblank, hin⟩ := hrest
      exact ⟨blank, hblank, hin.trans (List.suffix_cons b rest).isInfix⟩
    simp only [linesFrom] at h
    split at h
    · rename_i hb
      split at h
      · cases h
      · obtain ⟨tail, htail, -⟩ := Option.map_eq_some_iff.mp h
        cases tail with
        | cons => exact hlater (ih htail)
        | nil =>
          -- the empty line stands right after this one
          obtain ⟨empty, more, rfl, hempty⟩ := empty_of_linesFrom htail
          rw [hb]
          rcases stripCr_eq_nil hempty with rfl | rfl
          · exact ⟨[lf, lf], by simp [blankLines], [], more, rfl⟩
          · exact ⟨[lf, cr, lf], by simp [blankLines], [], more, rfl⟩
    · exact hlater (ih h)

/-! ## Verdicts on parts -/

/-- **What follows a head has no part in the verdict**, nor has the end of the
stream. -/
theorem examine_of_lines (h : headLines? head = some lines) (hhead : head <+: buffer)
    (ended : Bool) : examine buffer ended = examine head false := by
  obtain ⟨more, rfl⟩ := hhead
  simp only [examine, h, headLines?_append h]

theorem examine_ne_incomplete (h : headLines? buffer = some lines) :
    examine buffer ended ≠ .incomplete := by
  simp only [examine, h]
  split <;> simp

/-- Bytes that are no complete head are waited for, or refused. -/
theorem examine_of_none (h : headLines? buffer = none) (hne : buffer ≠ []) :
    examine buffer ended = .incomplete ∨ examine buffer ended = .invalid := by
  cases buffer with
  | nil => exact absurd rfl hne
  | cons first rest =>
    simp only [examine, h]
    split
    · exact Or.inr rfl
    · exact Or.inl rfl

/-- **A part of a head is waited for, or refused like the whole.** -/
theorem examine_partial (h : headLines? head = some lines) (hfits : head.length ≤ headLimit)
    (hbuffer : buffer <+: head) :
    examine buffer false = .incomplete ∨ examine buffer false = examine head false := by
  cases hlines : headLines? buffer with
  | some _ => exact Or.inr (examine_of_lines hlines hbuffer false).symm
  | none =>
    cases buffer with
    | nil => exact Or.inl rfl
    | cons first rest =>
      have hlength := Nat.le_trans hbuffer.length_le hfits
      by_cases hfirst : first < 0x21
      · -- no request begins with such a byte
        refine Or.inr ?_
        have hrefused : examine head false = .invalid := by
          cases hverdict : examine head false with
          | invalid => rfl
          | incomplete => exact absurd hverdict (examine_ne_incomplete h)
          | closed =>
            simp only [examine, h] at hverdict
            split at hverdict <;> cases hverdict
          | request request =>
            obtain ⟨start, tail, rfl, hstart⟩ := first_of_request hverdict
            obtain ⟨rfl, -⟩ := List.cons_prefix_cons.mp hbuffer
            exact absurd hfirst hstart
        rw [hrefused]
        simp [examine, hlines, hfirst]
      · exact Or.inl (by simpa [examine, hlines, hfirst] using hlength)

/-- Without a blank line there is no request. -/
theorem examine_of_no_blank (h : ¬ HasBlank stream) (hbuffer : buffer <+: stream)
    (hne : buffer ≠ []) : examine buffer ended = .incomplete ∨ examine buffer ended = .invalid := by
  cases hlines : headLines? buffer with
  | none => exact examine_of_none hlines hne
  | some lines =>
    cases lines with
    | nil => exact Or.inr (by simp [examine, hlines, Request.ofLines?])
    | cons line lines =>
      obtain ⟨blank, hblank, hin⟩ := hasBlank_of_linesFrom hlines
      exact absurd ⟨blank, hblank, hin.trans hbuffer.isInfix⟩ h

theorem examine_ended (stream : Bytes) : examine stream true ≠ .incomplete := by
  unfold examine
  split
  · split <;> exact nofun
  · split <;> simp

/-- **What leaves a head incomplete**: the stream has not ended, and the bytes
fit. -/
theorem examine_incomplete (h : examine buffer ended = .incomplete) :
    ended = false ∧ buffer.length ≤ headLimit := by
  unfold examine at h
  split at h
  · split at h <;> cases h
  · split at h
    · cases ended with
      | false => exact ⟨rfl, Nat.zero_le _⟩
      | true => cases h
    · split at h
      · cases h
      · rename_i hgoes
        simp only [Bool.or_eq_true, decide_eq_true_eq, not_or, Nat.not_lt,
          Bool.not_eq_true] at hgoes
        exact ⟨hgoes.2, hgoes.1.2⟩

end Http

namespace Gateway

variable {buffer chunk head stream : Bytes} {arrived rest more script : List Leg.Arrival}
variable {verdict : Http.Verdict}

/-! ## Reading on -/

/-- **The responder comes to a verdict**: reading on from what it has, it finds
the bytes incomplete until it finds this of them. -/
inductive ReadsTo : Bytes → List Leg.Arrival → Http.Verdict → Prop
  | now {buffer chunk : Bytes} {arrivals rest : List Leg.Arrival} {verdict : Http.Verdict} :
      Leg.take? Http.headLimit arrivals = some (chunk, rest) →
      Http.examine (buffer ++ chunk) (chunk = []) = verdict → verdict ≠ .incomplete →
      ReadsTo buffer arrivals verdict
  | later {buffer chunk : Bytes} {arrivals rest : List Leg.Arrival} {verdict : Http.Verdict} :
      Leg.take? Http.headLimit arrivals = some (chunk, rest) →
      Http.examine (buffer ++ chunk) (chunk = []) = .incomplete →
      ReadsTo (buffer ++ chunk) rest verdict → ReadsTo buffer arrivals verdict

/-- What a read of the responder means for the verdict. -/
theorem ReadsTo.of_receive {leg next : Leg} (h : ReadsTo buffer (leg.arrivals ++ more) verdict)
    (hread : leg.receive Http.headLimit = .data chunk next) :
    Http.examine (buffer ++ chunk) (chunk = []) = verdict ∧ verdict ≠ .incomplete ∨
      Http.examine (buffer ++ chunk) (chunk = []) = .incomplete ∧
        ReadsTo (buffer ++ chunk) (next.arrivals ++ more) verdict := by
  have htaken := Leg.take?_append (Leg.take?_of_receive hread) more
  cases h with
  | now htake hverdict hdone =>
    obtain ⟨rfl, rfl⟩ := Prod.mk.inj (Option.some.inj (htaken.symm.trans htake))
    exact Or.inl ⟨hverdict, hdone⟩
  | later htake hmore hrest =>
    obtain ⟨rfl, rfl⟩ := Prod.mk.inj (Option.some.inj (htaken.symm.trans htake))
    exact Or.inr ⟨hmore, hrest⟩

/-- Reading on comes to a verdict if it does not break off before it. -/
theorem ReadsTo.ne_broken {fault : Fault} (h : ReadsTo buffer arrived verdict) :
    arrived ≠ .broken fault :: rest := by
  rintro rfl
  cases h with
  | now htake | later htake => cases htake

/-- **The chunks do not matter.** If every part of what they bring is waited for
or has the verdict, and the whole has it or leads to it, then so do the chunks. -/
theorem readsTo_chunks (chunks : List Bytes) (buffer : Bytes)
    (hchunks : ∀ chunk ∈ chunks, chunk ≠ [])
    (hpart : ∀ part, part ≠ [] → part <+: chunks.flatten →
      Http.examine (buffer ++ part) false = .incomplete ∨
        Http.examine (buffer ++ part) false = verdict)
    (hverdict : verdict ≠ .incomplete)
    (hwhole : chunks ≠ [] ∧ Http.examine (buffer ++ chunks.flatten) false = verdict ∨
      ReadsTo (buffer ++ chunks.flatten) rest verdict) :
    ReadsTo buffer (chunks.map .data ++ rest) verdict := by
  -- on the bytes that are left: a chunk over the limit is read in parts, so the
  -- list of chunks may stay as long as it is
  induction hn : chunks.flatten.length using Nat.strongRecOn generalizing chunks buffer with
  | ind n ih =>
    cases chunks with
    | nil =>
      rcases hwhole with ⟨hne, -⟩ | hrest
      · exact absurd rfl hne
      · rwa [List.flatten_nil, List.append_nil] at hrest
    | cons whole chunks =>
      obtain ⟨hwholeNe, hothers⟩ := List.forall_mem_cons.mp hchunks
      obtain ⟨left, hleft, hflat, hunread⟩ :=
        unread_chunks Http.headLimit whole chunks rest hothers
      have htakeNe := take_headLimit_ne_nil hwholeNe
      have htake : Leg.take? Http.headLimit ((whole :: chunks).map .data ++ rest) =
          some (whole.take Http.headLimit, left.map .data ++ rest) := by
        rw [← hunread]
        rfl
      have hsplit : (whole :: chunks).flatten = whole.take Http.headLimit ++ left.flatten := by
        rw [hflat, List.flatten_cons, ← List.append_assoc, List.take_append_drop]
      rcases hpart _ htakeNe (hsplit ▸ List.prefix_append _ _) with hmore | hdone
      · refine .later htake (by rw [decide_eq_false htakeNe]; exact hmore) ?_
        have hshorter : left.flatten.length < n := by
          have hpos := List.length_pos_iff.mpr htakeNe
          rw [hsplit, List.length_append] at hn
          omega
        refine ih _ hshorter left _ hleft (fun part hne hprefix => ?_) ?_ rfl
        · rw [List.append_assoc]
          refine hpart _ (List.append_ne_nil_of_left_ne_nil htakeNe part) ?_
          rw [hsplit]
          exact (List.prefix_append_right_inj _).mpr hprefix
        · rw [List.append_assoc, ← hsplit]
          refine hwhole.imp_left fun ⟨_, hend⟩ => ⟨?_, hend⟩
          -- what was only waited for is not yet the whole
          rintro rfl
          rw [List.flatten_nil, List.append_nil] at hsplit
          rw [hsplit, hmore] at hend
          exact hverdict hend.symm
      · exact .now htake (by rw [decide_eq_false htakeNe]; exact hdone) hverdict

/-- The client sends these bytes, in chunks that are not empty, and then the
rest. -/
def Sends (script : List Leg.Arrival) (stream : Bytes) (rest : List Leg.Arrival) : Prop :=
  ∃ chunks : List Bytes, (∀ chunk ∈ chunks, chunk ≠ []) ∧ chunks.flatten = stream ∧
    script = chunks.map .data ++ rest

/-- **A head has one verdict**, whatever the chunks are that it comes in and
whatever follows it. -/
theorem readsTo_head {lines : List Bytes} {after : Bytes}
    (hlines : Http.headLines? head = some lines) (hne : head ≠ [])
    (hfits : head.length ≤ Http.headLimit) (hsends : Sends script (head ++ after) rest) :
    ReadsTo [] script (Http.examine head false) := by
  obtain ⟨chunks, hchunks, hstream, rfl⟩ := hsends
  refine readsTo_chunks chunks [] hchunks (fun part _ hpart => ?_)
    (Http.examine_ne_incomplete hlines) (Or.inl ⟨?_, ?_⟩)
  · rw [hstream] at hpart
    rw [List.nil_append]
    rcases Nat.lt_or_ge part.length head.length with hlt | hge
    · exact Http.examine_partial hlines hfits (List.prefix_of_prefix_length_le hpart
        (List.prefix_append head after) (Nat.le_of_lt hlt))
    · exact Or.inr (Http.examine_of_lines hlines (List.prefix_of_prefix_length_le
        (List.prefix_append head after) hpart hge) false)
  · rintro rfl
    exact hne (List.append_eq_nil_iff.mp hstream.symm).1
  · rw [hstream, List.nil_append]
    exact Http.examine_of_lines hlines (List.prefix_append head after) false

/-- **A stream without a blank line has one verdict** when it has ended. -/
theorem readsTo_ended (hblank : ¬ Http.HasBlank stream)
    (hsends : Sends script stream (.ended :: rest)) :
    ReadsTo [] script (Http.examine stream true) := by
  obtain ⟨chunks, hchunks, rfl, rfl⟩ := hsends
  have hlast : Http.examine chunks.flatten true ≠ .incomplete := Http.examine_ended _
  refine readsTo_chunks chunks [] hchunks (fun part hne hpart => ?_) hlast
    (Or.inr (.now rfl ?_ hlast))
  · have hwhole : chunks.flatten ≠ [] := by
      rintro hnil
      rw [hnil] at hpart
      exact hne (List.prefix_nil.mp hpart)
    have hinvalid := (Http.examine_of_no_blank hblank List.prefix_rfl hwhole).resolve_left hlast
    rw [hinvalid]
    exact Http.examine_of_no_blank hblank hpart hne
  · rw [List.append_nil]
    rfl

/-! ## Heads that are heard -/

/-- A verdict that is a request is one that is heard, if what has been read is no
request yet. -/
theorem ReadsTo.hears {request : Http.Request} (h : ReadsTo buffer arrived (.request request))
    (hbuffer : ∀ ended, Http.examine buffer ended ≠ .request request) :
    Hears buffer arrived request := by
  generalize hverdict : Http.Verdict.request request = verdict at h
  induction h with
  | @now buffer chunk arrived rest verdict htake hfound hdone =>
    subst hverdict
    rcases Leg.take?_cases htake with ⟨whole, more, rfl, rfl, rfl⟩ | ⟨⟨more, rfl⟩, rfl, rfl⟩
    · exact .now (Http.examine_of_prefix hfound List.prefix_rfl false)
    · rw [List.append_nil] at hfound
      exact absurd hfound (hbuffer _)
  | @later buffer chunk arrived rest verdict htake hmore hrest ih =>
    obtain ⟨hgoes, -⟩ := Http.examine_incomplete hmore
    have hchunk : chunk ≠ [] := of_decide_eq_false hgoes
    rw [hgoes] at hmore
    rcases Leg.take?_cases htake with ⟨whole, more, rfl, rfl, rfl⟩ | ⟨-, hnil, -⟩
    · have hwhole : whole ≠ [] := by
        rintro rfl
        exact hchunk List.take_nil
      refine .later hwhole hmore (ih (fun ended hfound => ?_) hverdict)
      -- what is incomplete is no request, whether the stream has ended or not
      rw [Http.examine_of_prefix hfound List.prefix_rfl false] at hmore
      cases hmore
    · exact absurd hnil hchunk

/-- **A request is heard** if the bytes that arrive before anything else begin
with its head, in whatever chunks they come, and the head is not too long. -/
theorem hears_of_head {request : Http.Request} {chunks : List Bytes}
    (hrequest : Http.examine head false = .request request) (hfits : head.length ≤ Http.headLimit)
    (hchunks : ∀ chunk ∈ chunks, chunk ≠ []) (hhead : head <+: chunks.flatten) :
    Hears [] (chunks.map .data ++ rest) request := by
  obtain ⟨lines, hlines, -⟩ := Http.examine_eq_request_iff.mp hrequest
  obtain ⟨first, tail, hfirst, -⟩ := Http.first_of_request hrequest
  obtain ⟨after, hafter⟩ := hhead
  have hsends : Sends (chunks.map .data ++ rest) (head ++ after) rest :=
    ⟨chunks, hchunks, hafter.symm, rfl⟩
  have hreads := readsTo_head hlines (by simp [hfirst]) hfits hsends
  rw [hrequest] at hreads
  exact hreads.hears fun ended => by cases ended <;> exact nofun

end Gateway

end TunnelRelay

import TunnelRelay.Proofs.Undisturbed
/-!
# Requests, written and read back

A request is written as a request line and a line for each header, each with
its end, and then an empty line (`Message.bytes`). What is written is read back
as it was meant: the lines are found again (`headLines?_written`), then the
parts of each line (`requestLine?_written`, `header?_written`), and with one host
and no declaration of a body nothing is left to refuse (`examine_bytes`).

So every well-formed request that is not too long is answered, in whatever
chunks it arrives.
-/

namespace TunnelRelay

namespace Http

/-! ## What is written -/

/-- The end of a written line. -/
def crlf : Bytes := [cr, lf]

/-- A header as it is meant: its name, and the words of its value. -/
structure Field where
  name : Bytes
  words : List Bytes

/-- The value of a header: its words, with one space between them. -/
def Field.value (field : Field) : Bytes := [space].intercalate field.words

/-- The line of a header. -/
def Field.line (field : Field) : Bytes := field.name ++ ascii ':' :: space :: field.value

/-- Whether a header has the given name, which is compared without regard to
case. -/
def Field.isNamed (name : String) (field : Field) : Bool :=
  field.name.map lowerByte = asciiBytes name

/-- A request as it is meant. -/
structure Message where
  method : Bytes
  target : Bytes
  fields : List Field

/-- The request line. -/
def Message.firstLine (m : Message) : Bytes :=
  m.method ++ space :: (m.target ++ space :: asciiBytes "HTTP/1.1")

/-- The lines of a request. -/
def Message.lines (m : Message) : List Bytes := m.firstLine :: m.fields.map Field.line

/-- **A request as it is written**: its lines, each with its end, and an empty
line. -/
def Message.bytes (m : Message) : Bytes := m.lines.flatMap (· ++ crlf) ++ crlf

/-- A token is not empty and has token characters only. -/
structure IsToken (s : Bytes) : Prop where
  ne_nil : s ≠ []
  all : ∀ b ∈ s, isTokenByte b = true

/-- A word is not empty and has visible characters only. -/
structure IsWord (s : Bytes) : Prop where
  ne_nil : s ≠ []
  all : ∀ b ∈ s, isVisible b = true

/-- **A request that is well formed**, has one host, and declares no body. -/
structure Message.WellFormed (m : Message) : Prop where
  method : IsToken m.method
  target : IsWord m.target
  names : ∀ field ∈ m.fields, IsToken field.name
  words : ∀ field ∈ m.fields, ∀ word ∈ field.words, IsWord word
  host : m.fields.countP (Field.isNamed "host") = 1
  length : ∀ field ∈ m.fields, field.isNamed "content-length" = false
  coding : ∀ field ∈ m.fields, field.isNamed "transfer-encoding" = false

theorem isToken_iff {s : Bytes} : (!s.isEmpty && s.all isTokenByte) = true ↔ IsToken s := by
  rw [Bool.and_eq_true, List.all_eq_true, Bool.not_eq_true', List.isEmpty_eq_false_iff]
  exact ⟨fun h => ⟨h.1, h.2⟩, fun h => ⟨h.ne_nil, h.all⟩⟩

instance (s : Bytes) : Decidable (IsToken s) := decidable_of_iff _ isToken_iff

theorem isWord_iff {s : Bytes} : (!s.isEmpty && s.all isVisible) = true ↔ IsWord s := by
  rw [Bool.and_eq_true, List.all_eq_true, Bool.not_eq_true', List.isEmpty_eq_false_iff]
  exact ⟨fun h => ⟨h.1, h.2⟩, fun h => ⟨h.ne_nil, h.all⟩⟩

instance (s : Bytes) : Decidable (IsWord s) := decidable_of_iff _ isWord_iff

instance (m : Message) : Decidable m.WellFormed :=
  decidable_of_iff (IsToken m.method ∧ IsWord m.target ∧
      (∀ field ∈ m.fields, IsToken field.name) ∧
      (∀ field ∈ m.fields, ∀ word ∈ field.words, IsWord word) ∧
      m.fields.countP (Field.isNamed "host") = 1 ∧
      (∀ field ∈ m.fields, field.isNamed "content-length" = false) ∧
      ∀ field ∈ m.fields, field.isNamed "transfer-encoding" = false)
    ⟨fun ⟨h₁, h₂, h₃, h₄, h₅, h₆, h₇⟩ => ⟨h₁, h₂, h₃, h₄, h₅, h₆, h₇⟩,
      fun h => ⟨h.method, h.target, h.names, h.words, h.host, h.length, h.coding⟩⟩

variable {b : UInt8} {s more : Bytes} {lines words : List Bytes} {m : Message}

/-! ## Bytes of tokens and words -/

theorem not_lt_of_isVisible (h : isVisible b = true) : ¬ b < 0x21 := by
  simp only [isVisible, Bool.and_eq_true, decide_eq_true_eq] at h
  exact UInt8.not_lt.mpr h.1

theorem isBlank_eq_false (h : ¬ b < 0x21) : isBlank b = false := by
  have hspace : b ≠ space := by
    rintro rfl
    exact h (by decide)
  have htab : b ≠ tab := by
    rintro rfl
    exact h (by decide)
  simp [isBlank, hspace, htab]

theorem isValueByte_of_isVisible (h : isVisible b = true) : isValueByte b = true := by
  have hlow := UInt8.le_iff_toNat_le.mp (UInt8.not_lt.mp (not_lt_of_isVisible h))
  have hzero : b ≠ 0 := by
    rintro rfl
    exact absurd hlow (by decide)
  have hcr : ¬ b ≤ cr := by
    intro hle
    exact absurd (Nat.le_trans hlow (UInt8.le_iff_toNat_le.mp hle)) (by decide)
  simp [isValueByte, hzero, hcr]

/-- No line ends within bytes that are visible, or spaces. -/
theorem lf_not_mem (h : ∀ b ∈ s, ¬ b < 0x21 ∨ b = space) : lf ∉ s := by
  intro hmem
  rcases h lf hmem with hlow | heq
  · exact hlow (by decide)
  · exact absurd heq (by decide)

/-! ## Lines -/

theorem linesFrom_line {current line : Bytes} (hline : lf ∉ line) :
    linesFrom current (line ++ lf :: more) =
      match stripCr (current.reverse ++ line) with
      | [] => some []
      | full => (linesFrom [] more).map (full :: ·) := by
  induction line generalizing current with
  | nil =>
    have hhere : linesFrom current (lf :: more) =
        match stripCr current.reverse with
        | [] => some []
        | full => (linesFrom [] more).map (full :: ·) := by
      cases hline : stripCr current.reverse <;> simp [linesFrom, hline]
    simpa only [List.nil_append, List.append_nil] using hhere
  | cons b line ih =>
    obtain ⟨hb, hrest⟩ := List.ne_and_not_mem_of_not_mem_cons hline
    rw [List.cons_append, linesFrom, if_neg (Ne.symm hb), ih hrest]
    simp

/-- A line that is not empty is read up to its end. -/
theorem linesFrom_written {line : Bytes} (hne : line ≠ []) (hline : lf ∉ line) :
    linesFrom [] (line ++ crlf ++ more) = (linesFrom [] more).map (line :: ·) := by
  have hsplit : line ++ crlf ++ more = (line ++ [cr]) ++ lf :: more := by simp [crlf]
  have hwhole : lf ∉ line ++ [cr] := by
    rw [List.mem_append, not_or]
    exact ⟨hline, by decide⟩
  have hstrip : stripCr ([].reverse ++ (line ++ [cr])) = line := by simp [stripCr]
  rw [hsplit, linesFrom_line hwhole, hstrip]
  cases line with
  | nil => exact absurd rfl hne
  | cons => rfl

/-- **Written lines are found again.** -/
theorem headLines?_written (hne : ∀ line ∈ lines, line ≠ []) (hlines : ∀ line ∈ lines, lf ∉ line) :
    headLines? (lines.flatMap (· ++ crlf) ++ crlf) = some lines := by
  unfold headLines?
  induction lines with
  | nil => rfl
  | cons line lines ih =>
    obtain ⟨hfirst, hothers⟩ := List.forall_mem_cons.mp hne
    obtain ⟨hline, hrest⟩ := List.forall_mem_cons.mp hlines
    rw [List.flatMap_cons, List.append_assoc, linesFrom_written hfirst hline, ih hothers hrest]
    rfl

/-! ## Values -/

/-- A text that neither begins nor ends with a blank. -/
structure Trimmed (s : Bytes) : Prop where
  first : ∀ b ∈ s.head?, isBlank b = false
  last : ∀ b ∈ s.getLast?, isBlank b = false

theorem IsWord.trimmed (h : IsWord s) : Trimmed s := by
  refine ⟨fun b hb => ?_, fun b hb => ?_⟩
  · exact isBlank_eq_false (not_lt_of_isVisible (h.all b (List.mem_of_mem_head? hb)))
  · exact isBlank_eq_false (not_lt_of_isVisible (h.all b (List.mem_of_getLast? hb)))

/-- What comes first in one text and last in another does so in both joined. -/
theorem Trimmed.append {t : Bytes} (hs : Trimmed s) (ht : Trimmed t) (hsne : s ≠ [])
    (htne : t ≠ []) : Trimmed (s ++ more ++ t) := by
  refine ⟨fun b hb => hs.first b ?_, fun b hb => ht.last b ?_⟩
  · obtain ⟨first, rest, rfl⟩ := List.exists_cons_of_ne_nil hsne
    exact hb
  · have hlast := List.getLast?_eq_some_getLast htne
    rwa [List.getLast?_append, hlast, Option.some_or, ← hlast] at hb

theorem words_ne_nil (hne : words ≠ []) (hwords : ∀ word ∈ words, IsWord word) :
    [space].intercalate words ≠ [] := by
  cases words with
  | nil => exact absurd rfl hne
  | cons word words =>
    have hword := (hwords word (List.mem_cons_self ..)).ne_nil
    cases words with
    | nil => rwa [List.intercalate_singleton]
    | cons other words => simp [List.intercalate_cons_cons, hword]

/-- **Words with one space between them** are trimmed, and have nothing but
visible characters and spaces. -/
theorem value_of_words (hwords : ∀ word ∈ words, IsWord word) :
    Trimmed ([space].intercalate words) ∧
      ∀ b ∈ [space].intercalate words, isVisible b = true ∨ b = space := by
  induction words with
  | nil => exact ⟨⟨nofun, nofun⟩, nofun⟩
  | cons word words ih =>
    obtain ⟨hword, hothers⟩ := List.forall_mem_cons.mp hwords
    cases words with
    | nil =>
      rw [List.intercalate_singleton]
      exact ⟨hword.trimmed, fun b hb => Or.inl (hword.all b hb)⟩
    | cons other words =>
      obtain ⟨htrimmed, hvisible⟩ := ih hothers
      have hne := words_ne_nil (List.cons_ne_nil other words) hothers
      rw [List.intercalate_cons_cons]
      refine ⟨hword.trimmed.append htrimmed hword.ne_nil hne, fun b hb => ?_⟩
      simp only [List.mem_append, List.mem_singleton] at hb
      rcases hb with (hb | hb) | hb
      · exact Or.inl (hword.all b hb)
      · exact Or.inr hb
      · exact hvisible b hb

theorem dropWhile_of_first (h : ∀ b ∈ s.head?, isBlank b = false) : s.dropWhile isBlank = s := by
  cases s with
  | nil => rfl
  | cons first rest => rw [List.dropWhile_cons_of_neg (by simp [h first rfl])]

/-- The space before a value is not part of it. -/
theorem trim_written (h : Trimmed s) : trim (space :: s) = s := by
  have hreverse : s.reverse.dropWhile isBlank = s.reverse :=
    dropWhile_of_first fun b hb => h.last b (by rwa [List.head?_reverse] at hb)
  rw [trim, List.dropWhile_cons_of_pos (by decide), dropWhile_of_first h.first, hreverse,
    List.reverse_reverse]

/-! ## Parts of lines -/

theorem takeWhile_token {c : UInt8} (hs : IsToken s) (hc : isTokenByte c = false) (more : Bytes) :
    (s ++ c :: more).takeWhile isTokenByte = s ∧
      (s ++ c :: more).dropWhile isTokenByte = c :: more := by
  rw [List.takeWhile_append_of_pos hs.all, List.dropWhile_append_of_pos hs.all]
  simp [hc]

theorem takeWhile_word {c : UInt8} (hs : IsWord s) (hc : isVisible c = false) (more : Bytes) :
    (s ++ c :: more).takeWhile isVisible = s ∧
      (s ++ c :: more).dropWhile isVisible = c :: more := by
  rw [List.takeWhile_append_of_pos hs.all, List.dropWhile_append_of_pos hs.all]
  simp [hc]

/-- **A header line is read as it was meant.** -/
theorem header?_written {field : Field} (hname : IsToken field.name)
    (hwords : ∀ word ∈ field.words, IsWord word) :
    header? field.line = some (field.name, field.value) := by
  obtain ⟨htrimmed, hvisible⟩ := value_of_words hwords
  obtain ⟨htake, hdrop⟩ := takeWhile_token hname
    (show isTokenByte (ascii ':') = false by decide) (space :: field.value)
  have hvalue : field.value.all isValueByte = true := by
    refine List.all_eq_true.mpr fun b hb => ?_
    rcases hvisible b hb with hb | rfl
    · exact isValueByte_of_isVisible hb
    · decide
  have htrim : trim (space :: field.value) = field.value := trim_written htrimmed
  simp [header?, Field.line, htake, hdrop, htrim, hvalue, hname.ne_nil]

/-- **A request line is read as it was meant.** -/
theorem requestLine?_written (hmethod : IsToken m.method) (htarget : IsWord m.target) :
    requestLine? m.firstLine = some (m.method, m.target, asciiBytes "1.1") := by
  obtain ⟨htake, hdrop⟩ := takeWhile_token hmethod
    (show isTokenByte space = false by decide) (m.target ++ space :: asciiBytes "HTTP/1.1")
  obtain ⟨htake', hdrop'⟩ := takeWhile_word htarget
    (show isVisible space = false by decide) (asciiBytes "HTTP/1.1")
  have hversion : version? (asciiBytes "HTTP/1.1") = some (asciiBytes "1.1") := by decide
  simp [requestLine?, Message.firstLine, htake, hdrop, htake', hdrop', hversion, hmethod.ne_nil,
    htarget.ne_nil]

/-- Lines of which none continues the one before stay as they are. -/
theorem unfold_written (h : ∀ line ∈ lines, continues line = false) :
    unfold lines = some lines := by
  have hfrom (last : Bytes) (lines : List Bytes) (h : ∀ line ∈ lines, continues line = false) :
      unfoldFrom last lines = last :: lines := by
    induction lines generalizing last with
    | nil => rfl
    | cons line lines ih =>
      obtain ⟨hline, hothers⟩ := List.forall_mem_cons.mp h
      simp [unfoldFrom, hline, ih line hothers]
  cases lines with
  | nil => rfl
  | cons line lines =>
    obtain ⟨hline, hothers⟩ := List.forall_mem_cons.mp h
    simp [unfold, hline, hfrom line lines hothers]

/-! ## The whole request -/

/-- No line of a request is empty, or has an end of line in it. -/
theorem lines_written (h : m.WellFormed) :
    (∀ line ∈ m.lines, line ≠ []) ∧ ∀ line ∈ m.lines, lf ∉ line := by
  have htoken {s : Bytes} (hs : IsToken s) (b : UInt8) (hb : b ∈ s) : ¬ b < 0x21 ∨ b = space :=
    Or.inl (not_lt_of_isTokenByte (hs.all b hb))
  have hvisible {b : UInt8} (hb : isVisible b = true ∨ b = space) : ¬ b < 0x21 ∨ b = space :=
    hb.imp_left not_lt_of_isVisible
  have hversion : ∀ b ∈ asciiBytes "HTTP/1.1", ¬ b < 0x21 ∨ b = space := by decide +kernel
  simp only [Message.lines, List.forall_mem_cons, List.forall_mem_map]
  refine ⟨⟨?_, fun field hfield => ?_⟩, ⟨lf_not_mem fun b hb => ?_,
    fun field hfield => lf_not_mem fun b hb => ?_⟩⟩
  · simp [Message.firstLine]
  · simp [Field.line]
  · simp only [Message.firstLine, List.mem_append, List.mem_cons] at hb
    rcases hb with hb | rfl | hb | rfl | hb
    · exact htoken h.method b hb
    · exact Or.inr rfl
    · exact hvisible (Or.inl (h.target.all b hb))
    · exact Or.inr rfl
    · exact hversion b hb
  · simp only [Field.line, List.mem_append, List.mem_cons] at hb
    rcases hb with hb | rfl | rfl | hb
    · exact htoken (h.names field hfield) b hb
    · exact Or.inl (by decide)
    · exact Or.inr rfl
    · exact hvisible ((value_of_words (h.words field hfield)).2 b hb)

/-- A header line begins with its name, and so continues nothing. -/
theorem continues_line {field : Field} (hname : IsToken field.name) :
    continues field.line = false := by
  obtain ⟨first, rest, hfirst⟩ := List.exists_cons_of_ne_nil hname.ne_nil
  have htoken := hname.all first (by simp [hfirst])
  simp [Field.line, hfirst, continues, isBlank_eq_false (not_lt_of_isTokenByte htoken)]

/-- A header as it is read. -/
def Field.read (field : Field) : Bytes × Bytes := (field.name, field.value)

theorem mapM_header? {fields : List Field} (hnames : ∀ field ∈ fields, IsToken field.name)
    (hwords : ∀ field ∈ fields, ∀ word ∈ field.words, IsWord word) :
    (fields.map Field.line).mapM header? = some (fields.map Field.read) := by
  induction fields with
  | nil => rfl
  | cons field fields ih =>
    obtain ⟨hname, hnames⟩ := List.forall_mem_cons.mp hnames
    obtain ⟨hword, hwords⟩ := List.forall_mem_cons.mp hwords
    rw [List.map_cons, List.mapM_cons, header?_written hname hword, ih hnames hwords]
    rfl

/-- The values of a name are those of the headers that have it. -/
theorem valuesOf_read (name : String) (fields : List Field) :
    valuesOf name (fields.map Field.read) =
      (fields.filter (Field.isNamed name)).map Field.value := by
  rw [valuesOf, List.filter_map, List.map_map]
  rfl

/-- A name that no header has, has no values. -/
theorem valuesOf_eq_nil {name : String} {fields : List Field}
    (h : ∀ field ∈ fields, field.isNamed name = false) :
    valuesOf name (fields.map Field.read) = [] := by
  rw [valuesOf_read, List.map_eq_nil_iff, List.filter_eq_nil_iff]
  intro field hfield
  rw [h field hfield]
  exact nofun

/-- A request as it is read. -/
def Message.request (m : Message) : Request :=
  { method := m.method, target := m.target, version := asciiBytes "1.1",
    headers := m.fields.map Field.read }

theorem ofLines?_written (h : m.WellFormed) : Request.ofLines? m.lines = some m.request := by
  have hlines : ∀ line ∈ m.fields.map Field.line, continues line = false :=
    List.forall_mem_map.mpr fun field hfield => continues_line (h.names field hfield)
  have hhost : hostsFit (asciiBytes "1.1") (valuesOf "host" (m.fields.map Field.read)) = true := by
    have hone := h.host
    rw [List.countP_eq_length_filter] at hone
    rw [valuesOf_read, hostsFit, List.length_map, hone]
    simp [List.ne_nil_of_length_eq_add_one hone]
  simp only [Message.lines, Request.ofLines?, requestLine?_written h.method h.target,
    unfold_written hlines, mapM_header? h.names h.words, Option.bind_eq_bind, Option.bind_some,
    valuesOf_eq_nil h.length, valuesOf_eq_nil h.coding, hhost]
  rfl

/-- **What is written is read back as it was meant.** -/
theorem examine_bytes (h : m.WellFormed) : examine m.bytes false = .request m.request := by
  obtain ⟨hne, hlines⟩ := lines_written h
  exact examine_eq_request_iff.mpr ⟨m.lines, headLines?_written hne hlines, ofLines?_written h⟩

end Http

namespace Gateway

variable {leg : Leg} {reason : String} {subject : Log.Subject} {acts : List Act} {g : Gateway}
variable {events : List Event} {script rest : List Leg.Arrival} {m : Http.Message} {after : Bytes}
variable {ending : Ending Bool} {request : Http.Request}

/-! ## The answer -/

/-- A request that is heard is answered, if the answer can be written. -/
theorem answered_of_ended (h : Undisturbed leg reason subject script none acts g events)
    (hreads : ReadsTo [] script (.request request)) (hended : g.stage = .ended ending) :
    ending = leg.closing (.returned true) ∧
      writes events = [response (body reason) request] := by
  obtain ⟨more, -, hawaits⟩ := awaits_run h hreads
  obtain ⟨hreason, hlike⟩ := kept_run h.run
  simp only [Awaits, hended, outcome, hreason] at hawaits
  exact ⟨hawaits.1.trans (hlike.closing _), hawaits.2⟩

/-- **Every well-formed request is answered.** Let the client send a request that
is well formed, has one host, declares no body and is not too long, in any chunks
and with anything after it, on a leg that takes what is written. A responder that
has ended has returned true, unless closing the leg raised a fault of its own,
and has written the response; the body is left out if and only if the method is
`HEAD`. And one that has all that the client sends comes to this end, once writes
are not stalled. -/
theorem well_formed_answered (h : machine.run { leg, reason, subject } acts = some (g, events))
    (hm : m.WellFormed) (hfits : m.bytes.length ≤ Http.headLimit) (hleg : leg.Writable)
    (hacts : ∀ act ∈ acts, act.Gentle ∧ ∀ fault, act ≠ .peer (.refuse fault))
    (hsends : Sends script (m.bytes ++ after) rest) (hscript : arrivedBy leg acts <+: script) :
    let answer := utf8 (headText (bodyText reason).utf8ByteSize) ++
      if m.method = Http.asciiBytes "HEAD" then [] else utf8 (bodyText reason)
    (∀ ending, g.stage = .ended ending →
      ending = leg.closing (.returned true) ∧ writes events = [answer]) ∧
    (arrivedBy leg acts = script → g.leg.stalled = false →
      ∃ n next more, machine.run g (List.replicate n .advance) = some (next, more) ∧
        next.stage = .ended (leg.closing (.returned true)) ∧
        writes (events ++ more) = [answer]) := by
  intro answer
  have hanswer : answer = response (body reason) m.request := (response_eq reason m.request).symm
  have hexamine := Http.examine_bytes hm
  have hreads : ReadsTo [] script (.request m.request) := by
    obtain ⟨lines, hlines, -⟩ := Http.examine_eq_request_iff.mp hexamine
    obtain ⟨first, tail, hbytes, -⟩ := Http.first_of_request hexamine
    rw [← hexamine]
    exact readsTo_head hlines (by simp [hbytes]) hfits hsends
  have hsteady : Steady none leg := ⟨hleg.isOpen, hleg.noFault⟩
  have hrun := undisturbed_of_steady h hsteady hacts hscript
  rw [hanswer]
  refine ⟨fun ending hended => answered_of_ended hrun hreads hended, fun hall hflow => ?_⟩
  obtain ⟨more, hmore, hawaits⟩ := awaits_run hrun hreads
  obtain rfl : more = [] := List.self_eq_append_right.mp (hall.trans hmore)
  obtain ⟨-, n, next, later, hlater, ⟨ending, hended⟩, -⟩ := hawaits.ends hflow
  -- the run that goes on is a run too, in which nothing more arrives
  have hwhole := Machine.run_append_iff.mpr ⟨g, events, later, h, hlater, rfl⟩
  have hgentle : ∀ act ∈ acts ++ List.replicate n .advance,
      act.Gentle ∧ ∀ fault, act ≠ .peer (.refuse fault) := by
    intro act hact
    rcases List.mem_append.mp hact with hbefore | hlast
    · exact hacts act hbefore
    · rw [(List.mem_replicate.mp hlast).2]
      exact ⟨⟨nofun, nofun⟩, nofun⟩
  have harrived : arrivedBy leg (acts ++ List.replicate n .advance) = arrivedBy leg acts := by
    simp [arrivedBy, Act.arrivals]
  obtain ⟨rfl, hwrites⟩ := answered_of_ended
    (undisturbed_of_steady hwhole hsteady hgentle (harrived ▸ hscript)) hreads hended
  exact ⟨n, next, later, hlater, hended, hwrites⟩

/-- A request with a header of two words. -/
def greeting : Http.Message :=
  { method := Http.asciiBytes "GET", target := Http.asciiBytes "/a?b",
    fields :=
      [ ⟨Http.asciiBytes "X-Greeting", [Http.asciiBytes "hello", Http.asciiBytes "world"]⟩,
        ⟨Http.asciiBytes "HOST", [Http.asciiBytes "a"]⟩ ] }

/-- A client that sends it in two pieces, and closes. -/
def greets : List Act :=
  [.peer (.deliver (greeting.bytes.take 40)), .advance, .peer (.deliver (greeting.bytes.drop 40)),
    .peer .finish, .advance, .advance, .advance]

theorem greeting_answered :
    greeting.WellFormed ∧ ∃ g events,
      machine.run { leg := {}, reason := "gone" } greets = some (g, events) ∧
      g.stage = .ended (.returned true) ∧
      writes events = [utf8 (headText 28) ++ utf8 (bodyText "gone")] := by
  have hm : greeting.WellFormed := by decide +kernel
  obtain ⟨⟨g, events⟩, h, hended⟩ := (Option.any_eq_true _ _).mp
    (show (machine.run { leg := {}, reason := "gone" } greets).any (·.1.stage.isEnded) = true by
      decide +kernel)
  obtain ⟨ending, hended⟩ := Stage.isEnded_iff.mp hended
  have hsends : Sends (arrivedBy {} greets) (greeting.bytes ++ []) [.ended] :=
    ⟨[greeting.bytes.take 40, greeting.bytes.drop 40], by decide, by decide, rfl⟩
  obtain ⟨hreturned, -⟩ := well_formed_answered h hm (by decide) ⟨rfl, rfl⟩
    (by simp [greets, gentle_iff]) hsends List.prefix_rfl
  obtain ⟨hending, hwrites⟩ := hreturned ending hended
  rw [hending, Leg.closing_eq_self rfl] at hended
  have hsize : (bodyText "gone").utf8ByteSize = 28 := by decide +kernel
  rw [hsize, if_neg (by decide)] at hwrites
  exact ⟨hm, g, events, h, hended, hwrites⟩

end Gateway

end TunnelRelay

import D2b.ExecRunner.FileRing
import D2b.Lib.Run

/-!
# D2b.ExecRunner.FileRing.NoTornRead

One writer and any readers over the files of a ring, interleaved effect by
effect and access by access.  The state remembers all bytes ever appended
and how many there were at the EOF mark.

The writer is safe at every point: the published window is intact after each
effect of a call (`append_safe`), so a reader that sees its offset still in
the window after the copy has copied the right bytes.
-/

namespace D2b.ExecRunner

open Circular StreamMeta
open FileRing

/-! ## the system -/

inductive WriterCall where
  | append (bytes : List UInt8)
  | markEof
  | markLost
deriving DecidableEq

namespace WriterCall

/-- The effects of a call and the bookkeeping after it. -/
def run (ring : FileRing) : WriterCall → List Effect × FileRing
  | append bytes => ring.append bytes
  | markEof => ring.markEof
  | markLost => ring.markLost

def bytes : WriterCall → List UInt8
  | append bytes => bytes
  | _ => []

/-- The EOF mark after a call: the first one stays. -/
def mark (appended : List UInt8) (eofMark : Option Nat) : WriterCall → Option Nat
  | append _ => eofMark
  | _ => eofMark <|> some appended.length

end WriterCall

/-- The files, the writer with the effects its call still has to make, and the
readers; `appended` and `eofMark` record what the writer did. -/
structure RingSystem (R : Type) where
  files : Files
  ring : FileRing
  pending : List Effect
  appended : List UInt8
  eofMark : Option Nat
  readers : R → FileRingReader

/-- What can happen next. -/
inductive RingAction (R : Type) where
  | call (c : WriterCall)
  | effect
  | request (r : R) (req : ReadRequest)
  | access (r : R)

namespace RingSystem

variable {R : Type} [DecidableEq R]

/-- A ring that was just created; the data file may hold anything. -/
def Init (cap : Nat) (s : RingSystem R) : Prop :=
  s.files.sidecar = .new cap ∧ s.ring.streamMeta = .new cap ∧ s.pending = [] ∧ s.appended = [] ∧
    s.eofMark = none ∧ ∀ r, s.readers r = .idle

/-- One action, if it can happen. -/
def act (s : RingSystem R) : RingAction R → Option (RingSystem R)
  | .call c =>
    match s.pending with
    | [] => some { s with
        ring := (c.run s.ring).2
        pending := (c.run s.ring).1
        appended := s.appended ++ c.bytes
        eofMark := c.mark s.appended s.eofMark }
    | _ :: _ => none
  | .effect =>
    match s.pending with
    | [] => none
    | e :: rest => some { s with files := s.files.apply e, pending := rest }
  | .request r req =>
    match s.readers r with
    | .idle | .done _ _ => some { s with readers := Function.update s.readers r (.begin req) }
    | _ => none
  | .access r =>
    some { s with readers := Function.update s.readers r ((s.readers r).step s.files) }

end RingSystem

/-! ## the writer keeps the published window -/

/-- The window that the sidecar publishes is intact, and an end of file in it
comes after the mark. -/
structure Files.Intact (files : Files) (cap : Nat) (appended : List UInt8)
    (eofMark : Option Nat) : Prop where
  cap_eq : files.sidecar.cap = cap
  end_le : files.sidecar.endOffset ≤ appended.length
  holds : Holds cap files.data appended files.sidecar.startOffset files.sidecar.endOffset
  eof : files.sidecar.eof = true → ∃ k, eofMark = some k ∧ k ≤ files.sidecar.endOffset
  mark_le : ∀ k, eofMark = some k → k ≤ appended.length

/-- The published offsets do not go back. -/
def Files.Advances (files files' : Files) : Prop :=
  files.sidecar.startOffset ≤ files'.sidecar.startOffset ∧
    files.sidecar.endOffset ≤ files'.sidecar.endOffset

/-- Effects that keep the window intact at every point, and end with the sidecar
that the writer has in memory. -/
def Safe (cap : Nat) (appended : List UInt8) (eofMark : Option Nat) (final : StreamMeta) :
    Files → List Effect → Prop
  | files, [] => files.Intact cap appended eofMark ∧ files.sidecar = final ∧
      final.startOffset ≤ final.endOffset ∧ final.endOffset = appended.length
  | files, e :: rest => files.Intact cap appended eofMark ∧ files.Advances (files.apply e) ∧
      Safe cap appended eofMark final (files.apply e) rest

variable {cap : Nat} {appended : List UInt8} {eofMark : Option Nat} {files : Files}

lemma Safe.intact (h : Safe cap appended eofMark final files effects) :
    files.Intact cap appended eofMark := by
  cases effects <;> exact h.1

lemma writeCircular_nil : writeCircular cap w [] = [] := by
  simp [writeCircular]

lemma writeCircular_cons (hcap : 0 < cap) :
    writeCircular cap w (b :: bs) = .writeByte (w % cap) b :: writeCircular cap (w + 1) bs := by
  unfold writeCircular
  rw [cells_mod hcap, cells_mod hcap, List.length_cons, List.range_succ_eq_map]
  simp [Function.comp_def, Nat.add_assoc, Nat.add_comm 1]

/-- Writing the rest of the stream, then publishing it. -/
lemma writes_safe (hcap : 0 < cap) (hspan : stream.length ≤ l + cap)
    (hfinal : final.cap = cap ∧ l ≤ final.startOffset ∧ final.startOffset ≤ final.endOffset ∧
      final.endOffset = stream.length)
    (heof : final.eof = true → ∃ k, eofMark = some k ∧ k ≤ final.endOffset) :
    ∀ (payload : List UInt8) (w : Nat) (files : Files), stream.drop w = payload → l ≤ w →
      w ≤ stream.length → files.sidecar.endOffset ≤ w → files.Intact cap stream eofMark →
      (files.sidecar.startOffset < files.sidecar.endOffset → l ≤ files.sidecar.startOffset) →
      Holds cap files.data stream l w → files.sidecar.startOffset ≤ final.startOffset →
      Safe cap stream eofMark final files
        (writeCircular cap w payload ++ [.persistMeta final]) := by
  intro payload
  induction payload with
  | nil =>
    intro w files hpayload hlo hw hend hintact hwindow hholds hstart
    have hall : w = stream.length := by
      have := congrArg List.length hpayload
      simp at this
      omega
    rw [writeCircular_nil, List.nil_append]
    refine ⟨hintact, ⟨hstart, ?_⟩, ⟨hfinal.1, ?_, ?_, heof, hintact.mark_le⟩, rfl, hfinal.2.2.1,
      hfinal.2.2.2⟩
    · show files.sidecar.endOffset ≤ final.endOffset
      omega
    · exact Nat.le_of_eq hfinal.2.2.2
    · exact hholds.mono hfinal.2.1 (by show final.endOffset ≤ w; omega)
  | cons b payload ih =>
    intro w files hpayload hlo hw hend hintact hwindow hholds hstart
    have hb : stream[w]? = some b := by
      have := congrArg List.head? hpayload
      simpa using this
    have hlt : w < stream.length := (List.getElem?_eq_some_iff.mp hb).1
    have hrest : stream.drop (w + 1) = payload := by
      have := congrArg List.tail hpayload
      simpa using this
    have hnext := hholds.write (by omega) hb 0
    have hintact' : (files.apply (.writeByte (w % cap) b)).Intact cap stream eofMark := by
      refine ⟨hintact.cap_eq, hintact.end_le, ?_, hintact.eof, hintact.mark_le⟩
      by_cases hempty : files.sidecar.startOffset < files.sidecar.endOffset
      · exact hnext.mono (hwindow hempty) (by show files.sidecar.endOffset ≤ w + 1; omega)
      · exact Holds.of_le (Nat.le_of_not_lt hempty)
    rw [writeCircular_cons hcap, List.cons_append]
    exact ⟨hintact, ⟨Nat.le_refl _, Nat.le_refl _⟩, ih (w + 1) _ hrest (by omega) (by omega)
      (by show files.sidecar.endOffset ≤ w + 1; omega) hintact' hwindow hnext hstart⟩

/-- The window stays intact when the writer appends more. -/
lemma Files.Intact.append (h : files.Intact cap appended eofMark) (bytes : List UInt8) :
    files.Intact cap (appended ++ bytes) eofMark :=
  have hlen : (appended ++ bytes).length = appended.length + bytes.length := List.length_append
  ⟨h.cap_eq, by have := h.end_le; omega, h.holds.append bytes, h.eof,
    fun k hk => by have := h.mark_le k hk; omega⟩

/-- Every effect of an append keeps the window intact. -/
lemma append_safe (hcap : 0 < cap) {ring : FileRing}
    (hsafe : Safe cap appended eofMark ring.streamMeta files [])
    (hbound : (appended ++ bytes).length < 2 ^ 64) :
    Safe cap (appended ++ bytes) eofMark (ring.append bytes).2.streamMeta files
      (ring.append bytes).1 := by
  obtain ⟨hintact, hsame, hle, hend⟩ := hsafe
  unfold append
  by_cases hempty : bytes = []
  · subst hempty
    simp only [List.append_nil, List.isEmpty_nil, if_true]
    exact ⟨hintact, hsame, hle, hend⟩
  rw [if_neg (by simpa using hempty)]
  have hcapeq : ring.streamMeta.cap = cap := hsame ▸ hintact.cap_eq
  have heof := hintact.eof
  have hholds := hintact.holds.append bytes
  rw [hsame] at heof hholds
  have hlen : (appended ++ bytes).length = ring.streamMeta.endOffset + bytes.length := by
    rw [List.length_append, hend]
  have hnew : saturatingAdd ring.streamMeta.endOffset bytes.length =
      (appended ++ bytes).length := by
    unfold saturatingAdd
    omega
  have hpayload : ∀ w, ring.streamMeta.endOffset ≤ w →
      (appended ++ bytes).drop w = bytes.drop (w - ring.streamMeta.endOffset) := by
    intro w hw
    rw [List.drop_append, List.drop_eq_nil_of_le (by omega), List.nil_append, hend]
  simp only [hnew, hcapeq, dropTo_cap, dropTo_endOffset]
  generalize hN : (appended ++ bytes).length = N at *
  have hstart := ring.streamMeta.dropTo_startOffset (N - cap) hle
  -- once the start is published, the rest of the call writes and publishes the end
  have hwrites : Safe cap (appended ++ bytes) eofMark
      ((ring.streamMeta.dropTo (N - cap)).extendTo (N - cap) N)
      { files with sidecar := ring.streamMeta.dropTo (N - cap) }
      (writeCircular cap (max (N - cap) ring.streamMeta.endOffset)
        (bytes.drop (max (N - cap) ring.streamMeta.endOffset - ring.streamMeta.endOffset)) ++
        [.persistMeta ((ring.streamMeta.dropTo (N - cap)).extendTo (N - cap) N)]) := by
    have hwindow : Holds cap files.data (appended ++ bytes)
        (max (N - cap) (ring.streamMeta.dropTo (N - cap)).startOffset)
        (max (N - cap) ring.streamMeta.endOffset) := by
      by_cases hover : N - cap ≤ ring.streamMeta.endOffset
      · exact hholds.mono (by omega) (by omega)
      · exact Holds.of_le (by omega)
    refine writes_safe hcap (l := max (N - cap) (ring.streamMeta.dropTo (N - cap)).startOffset)
      (by omega) ?_ ?_ _ _ _ (hpayload _ (by omega)) (by omega) (by omega)
      ?_ ⟨?_, ?_, ?_, ?_, ?_⟩
      ?_ hwindow ?_
    · simp only [extendTo_cap, dropTo_cap, extendTo_startOffset, extendTo_endOffset]
      omega
    · simp only [extendTo_eof, dropTo_eof, extendTo_endOffset]
      intro he
      obtain ⟨k, hk, hke⟩ := heof he
      exact ⟨k, hk, by omega⟩
    · simp only [dropTo_endOffset]
      omega
    · simp only [dropTo_cap, hcapeq]
    · simp only [dropTo_endOffset]
      omega
    · simp only [dropTo_endOffset]
      exact hholds.mono (by omega) (Nat.le_refl _)
    · simpa only [dropTo_eof, dropTo_endOffset] using heof
    · exact (hintact.append bytes).mark_le
    · simp only [dropTo_endOffset]
      omega
    · simp only [extendTo_startOffset]
      omega
  by_cases hdrop : N - cap > ring.streamMeta.startOffset
  · rw [if_pos hdrop]
    refine ⟨hintact.append bytes, ⟨?_, ?_⟩, hwrites⟩
    · show files.sidecar.startOffset ≤ (ring.streamMeta.dropTo (N - cap)).startOffset
      rw [hsame]
      omega
    · show files.sidecar.endOffset ≤ (ring.streamMeta.dropTo (N - cap)).endOffset
      rw [hsame, dropTo_endOffset]
  · have hpre : ring.streamMeta.dropTo (N - cap) = files.sidecar := by
      rw [hsame, dropTo, if_neg hdrop]
    rw [if_neg hdrop, List.nil_append]
    rwa [hpre] at hwrites ⊢

/-- A later mark does not move the first one. -/
lemma Files.Intact.mark (h : files.Intact cap appended eofMark) :
    files.Intact cap appended (eofMark <|> some appended.length) := by
  refine ⟨h.cap_eq, h.end_le, h.holds, ?_, ?_⟩
  · intro heof
    obtain ⟨k, rfl, hk⟩ := h.eof heof
    exact ⟨k, rfl, hk⟩
  · intro k hk
    cases hmark : eofMark with
    | none => simp [hmark] at hk; omega
    | some n =>
      simp [hmark] at hk
      exact h.mark_le k (by rw [hmark, hk])

/-- Publishing a mark moves neither end of the window. -/
lemma mark_safe {ring : FileRing} (hsafe : Safe cap appended eofMark ring.streamMeta files [])
    (lost : Bool) : Safe cap appended (eofMark <|> some appended.length)
      { ring.streamMeta with lost, eof := true } files
      [.persistMeta { ring.streamMeta with lost, eof := true }] := by
  obtain ⟨hintact, hsame, hle, hend⟩ := hsafe
  have hmark := hintact.mark
  have hcapeq := hintact.cap_eq
  have hholds := hintact.holds
  rw [hsame] at hcapeq hholds
  refine ⟨hmark, ⟨?_, ?_⟩, ⟨hcapeq, Nat.le_of_eq hend, hholds, ?_, hmark.mark_le⟩, rfl, hle, hend⟩
  · show files.sidecar.startOffset ≤ ring.streamMeta.startOffset
    rw [hsame]
  · show files.sidecar.endOffset ≤ ring.streamMeta.endOffset
    rw [hsame]
  · intro _
    show ∃ k, _ ∧ k ≤ ring.streamMeta.endOffset
    rw [hend]
    cases hold : eofMark with
    | none => exact ⟨appended.length, rfl, Nat.le_refl _⟩
    | some k => exact ⟨k, rfl, hintact.mark_le k hold⟩

/-- Every effect of every call keeps the window intact. -/
lemma call_safe (hcap : 0 < cap) {ring : FileRing}
    (hsafe : Safe cap appended eofMark ring.streamMeta files []) (c : WriterCall)
    (hbound : (appended ++ c.bytes).length < 2 ^ 64) :
    Safe cap (appended ++ c.bytes) (c.mark appended eofMark) (c.run ring).2.streamMeta files
      (c.run ring).1 := by
  cases c with
  | append bytes => exact append_safe hcap hsafe hbound
  | markEof =>
    simp only [WriterCall.bytes, WriterCall.mark, WriterCall.run, markEof, List.append_nil]
    split
    · exact ⟨hsafe.1.mark, hsafe.2⟩
    · exact mark_safe hsafe ring.streamMeta.lost
  | markLost =>
    simp only [WriterCall.bytes, WriterCall.mark, WriterCall.run, markLost, List.append_nil]
    split
    · exact ⟨hsafe.1.mark, hsafe.2⟩
    · exact mark_safe hsafe true

/-! ## the readers -/

/-- What a chunk says about the bytes appended so far. -/
structure RingChunk.Exact (chunk : RingChunk) (cap : Nat) (req : ReadRequest)
    (appended : List UInt8) (eofMark : Option Nat) : Prop where
  data_eq : chunk.data = slice appended req.offset (chunk.nextOffset - req.offset)
  length_eq : chunk.data.length = chunk.nextOffset - req.offset
  length_le : chunk.data.length ≤ req.maxLen
  start_le : chunk.startOffset ≤ req.offset
  offset_le : req.offset ≤ chunk.nextOffset
  next_le : chunk.nextOffset ≤ chunk.endOffset
  end_le : chunk.endOffset ≤ appended.length
  span_le : chunk.endOffset - chunk.startOffset ≤ cap
  eof : chunk.eof = true → ∃ k, eofMark = some k ∧ k ≤ chunk.nextOffset

/-- A sidecar that the writer published at some point. -/
structure StreamMeta.Seen (m : StreamMeta) (cap : Nat) (files : Files)
    (eofMark : Option Nat) : Prop where
  cap_eq : m.cap = cap
  end_le : m.endOffset ≤ files.sidecar.endOffset
  eof : m.eof = true → ∃ k, eofMark = some k ∧ k ≤ m.endOffset

/-- The window of a validated sidecar, with the offset in it. -/
structure ReadRequest.Within (req : ReadRequest) (m : StreamMeta) (cap : Nat) : Prop where
  start_le : m.startOffset ≤ req.offset
  le_end : req.offset ≤ m.endOffset
  span_le : m.endOffset - m.startOffset ≤ cap

open FileRingReader in
/-- What holds of a read at each point: the bytes copied so far are those of the
stream unless the window has moved past the offset. -/
def FileRingReader.Sound (cap : Nat) (files : Files) (appended : List UInt8)
    (eofMark : Option Nat) : FileRingReader → Prop
  | .stat _ _ m => m.Seen cap files eofMark
  | .copying req _ m rest out =>
    m.Seen cap files eofMark ∧ req.Within m cap ∧ out.length ≤ ReadRequest.take req m ∧
      rest = (List.range (ReadRequest.take req m - out.length)).map
        (fun i => (req.offset + out.length + i) % cap) ∧
      (files.sidecar.startOffset ≤ req.offset → out = slice appended req.offset out.length)
  | .restat req _ m out after =>
    m.Seen cap files eofMark ∧ req.Within m cap ∧ out.length = ReadRequest.take req m ∧
      (after.startOffset ≤ req.offset → out = slice appended req.offset out.length)
  | .done req (.ok chunk) => chunk.Exact cap req appended eofMark
  | _ => True

namespace FileRingReader

lemma take_le (req : ReadRequest) (m : StreamMeta) (hw : req.Within m cap) :
    req.offset + ReadRequest.take req m ≤ m.endOffset := by
  have := hw.le_end
  unfold ReadRequest.take
  omega

/-- What a reader knows stays true while the writer goes on. -/
lemma Sound.mono {reader : FileRingReader} (h : reader.Sound cap files appended eofMark)
    (hend : files.sidecar.endOffset ≤ appended.length) (hadv : files.Advances files')
    (hmark : ∀ k, eofMark = some k → eofMark' = some k) (more : List UInt8) :
    reader.Sound cap files' (appended ++ more) eofMark' := by
  have heof : ∀ {eof : Bool} {n : Nat}, (eof = true → ∃ k, eofMark = some k ∧ k ≤ n) →
      eof = true → ∃ k, eofMark' = some k ∧ k ≤ n := by
    intro eof n h he
    obtain ⟨k, hk, hkn⟩ := h he
    exact ⟨k, hmark k hk, hkn⟩
  have hseen : ∀ {m : StreamMeta}, m.Seen cap files eofMark → m.Seen cap files' eofMark' :=
    fun h => ⟨h.cap_eq, h.end_le.trans hadv.2, heof h.eof⟩
  cases reader with
  | idle | start => trivial
  | stat req tries m => exact hseen h
  | copying req tries m rest out =>
    obtain ⟨hs, hw, hlen, hrest, hout⟩ := h
    have htake := take_le req m hw
    have hle := hs.end_le
    refine ⟨hseen hs, hw, hlen, hrest, fun hstart => ?_⟩
    rw [slice_append (by omega)]
    exact hout (hadv.1.trans hstart)
  | restat req tries m out after =>
    obtain ⟨hs, hw, hlen, hout⟩ := h
    have htake := take_le req m hw
    have hle := hs.end_le
    refine ⟨hseen hs, hw, hlen, fun hstart => ?_⟩
    rw [slice_append (by omega)]
    exact hout hstart
  | done req result =>
    cases result with
    | error e => trivial
    | ok chunk =>
      have hoffset := h.offset_le
      have hnext := h.next_le
      have hchunk := h.end_le
      exact { h with
        data_eq := by rw [slice_append (by omega)]; exact h.data_eq
        end_le := by rw [List.length_append]; omega
        eof := heof h.eof }

lemma retry_sound (req : ReadRequest) (tries : Nat) (e : FileRingError) :
    (retry req tries e).Sound cap files appended eofMark := by
  cases tries <;> trivial

variable {req : ReadRequest}

lemma startCopy_sound (hcap : 0 < cap) (tries : Nat) (hs : m.Seen cap files eofMark)
    (hw : req.Within m cap) : (startCopy req tries m).Sound cap files appended eofMark := by
  refine ⟨hs, hw, Nat.zero_le _, ?_, fun _ => rfl⟩
  rw [hs.cap_eq, cells_mod hcap]
  rfl

lemma within_of_validateMeta (hvalid : validateMeta m dataLen = .ok ())
    (hstart : m.startOffset ≤ req.offset) (hend : req.offset ≤ m.endOffset) :
    req.Within m m.cap := by
  refine ⟨hstart, hend, ?_⟩
  unfold validateMeta at hvalid
  grind

/-- The byte in the next cell is the next byte of the stream, if the window is
still behind the offset. -/
lemma copy_sound (hintact : files.Intact cap appended eofMark)
    (h : (copying req tries m (pos :: rest) out).Sound cap files appended eofMark)
    (hbyte : files.data[pos]? = some byte) :
    (copying req tries m rest (out ++ [byte])).Sound cap files appended eofMark := by
  obtain ⟨hs, hw, hlen, hrest, hout⟩ := h
  have hmore : ReadRequest.take req m - out.length =
      (ReadRequest.take req m - (out.length + 1)) + 1 := by
    have := congrArg List.length hrest
    simp at this
    omega
  rw [hmore, List.range_succ_eq_map, List.map_cons, List.map_map] at hrest
  obtain ⟨hpos, hrest⟩ := List.cons.inj hrest
  refine ⟨hs, hw, by simp; omega, ?_, fun hstart => ?_⟩
  · simp [hrest, Function.comp_def, Nat.add_assoc, Nat.add_comm 1]
  · have htake := take_le req m hw
    have hle := hs.end_le
    obtain ⟨a, hcell, helem⟩ := hintact.holds (req.offset + out.length) (by omega) (by omega)
    rw [Nat.add_zero] at hpos
    rw [← hpos, hbyte] at hcell
    cases hcell
    rw [List.length_append, List.length_singleton, slice_succ helem, ← hout hstart]

lemma chunk_exact (hend : files.sidecar.endOffset ≤ appended.length)
    (hbound : appended.length < 2 ^ 64)
    (h : (restat req tries m out after).Sound cap files appended eofMark)
    (hstart : after.startOffset ≤ req.offset) :
    (chunk req m out).Exact cap req appended eofMark := by
  obtain ⟨hs, hw, hlen, hout⟩ := h
  have htake := take_le req m hw
  have hle := hs.end_le
  have hnext : saturatingAdd req.offset (ReadRequest.take req m) =
      req.offset + ReadRequest.take req m := by
    unfold saturatingAdd
    omega
  have hmax : ReadRequest.take req m ≤ req.maxLen := Nat.min_le_right ..
  have hcount : req.offset + ReadRequest.take req m - req.offset = out.length := by omega
  constructor <;> simp only [chunk, hnext, hcount]
  · exact hout hstart
  · omega
  · exact hw.start_le
  · omega
  · exact htake
  · omega
  · exact hw.span_le
  · intro heof
    simp only [Bool.and_eq_true, decide_eq_true_eq] at heof
    obtain ⟨k, hk, hkn⟩ := hs.eof heof.1
    exact ⟨k, hk, by omega⟩

/-- An access of a read keeps what it knows. -/
lemma step_sound (hcap : 0 < cap) (hintact : files.Intact cap appended eofMark)
    (hbound : appended.length < 2 ^ 64) {reader : FileRingReader}
    (h : reader.Sound cap files appended eofMark) :
    (reader.step files).Sound cap files appended eofMark := by
  cases reader with
  | idle => trivial
  | start req tries e => exact ⟨hintact.cap_eq, Nat.le_refl _, hintact.eof⟩
  | stat req tries m =>
    cases hvalid : validateMeta m files.data.length with
    | error e => simp only [step, hvalid]; trivial
    | ok =>
      simp only [step, hvalid]
      by_cases hexpired : req.offset < m.startOffset
      · rw [if_pos hexpired]; trivial
      · rw [if_neg hexpired]
        by_cases hfuture : req.offset > m.endOffset
        · rw [if_pos hfuture]; trivial
        · rw [if_neg hfuture]
          have hw := within_of_validateMeta hvalid (Nat.le_of_not_lt hexpired)
            (Nat.le_of_not_lt hfuture)
          exact startCopy_sound hcap tries h (h.cap_eq ▸ hw)
  | copying req tries m rest out =>
    cases rest with
    | nil =>
      obtain ⟨hs, hw, hlen, hrest, hout⟩ := h
      have hall := congrArg List.length hrest
      simp at hall
      exact ⟨hs, hw, by omega, hout⟩
    | cons pos rest =>
      cases hbyte : files.data[pos]? with
      | none =>
        simp only [step, hbyte]
        exact retry_sound req tries _
      | some byte =>
        simp only [step, hbyte]
        exact copy_sound hintact h hbyte
  | restat req tries m out after =>
    cases hvalid : validateMeta after files.data.length with
    | error e => simp only [step, hvalid]; trivial
    | ok =>
      simp only [step, hvalid]
      by_cases htorn : after.startOffset > req.offset
      · rw [if_pos htorn]
        exact retry_sound req tries _
      · rw [if_neg htorn]
        exact chunk_exact hintact.end_le hbound h (Nat.le_of_not_lt htorn)
  | done req result => exact h

end FileRingReader

/-! ## runs -/

namespace RingSystem

variable {R : Type} {cap : Nat}

/-- What holds in every state: the pending effects are safe, and so is each read. -/
structure Inv (cap : Nat) (s : RingSystem R) : Prop where
  safe : Safe cap s.appended s.eofMark s.ring.streamMeta s.files s.pending
  readers : ∀ r, (s.readers r).Sound cap s.files s.appended s.eofMark

variable {s : RingSystem R}

lemma init_inv (h : s.Init cap) : s.Inv cap := by
  obtain ⟨hsidecar, hring, hpending, happended, hmark, hreaders⟩ := h
  constructor
  · rw [hpending, happended, hmark, hring]
    refine ⟨⟨?_, ?_, ?_, ?_, fun k hk => by cases hk⟩, hsidecar, Nat.le_refl _, rfl⟩ <;>
      rw [hsidecar]
    · rfl
    · exact Nat.le_refl _
    · exact Holds.of_le (Nat.le_refl _)
    · intro heof
      cases heof
  · intro r
    rw [hreaders r]
    trivial

variable [DecidableEq R]

/-- One action keeps the invariant, as long as offsets do not saturate. -/
lemma act_inv (hcap : 0 < cap) {s' : RingSystem R} (h : s.Inv cap) (hact : s.act a = some s')
    (hbound : s'.appended.length < 2 ^ 64) : s'.Inv cap := by
  have hintact := h.safe.intact
  cases a with
  | call c =>
    unfold act at hact
    cases hpending : s.pending with
    | cons e rest => simp [hpending] at hact
    | nil =>
      have hsafe := h.safe
      simp only [hpending, Option.some.injEq] at hact hsafe
      subst hact
      refine ⟨call_safe hcap hsafe c hbound, fun r => ?_⟩
      refine (h.readers r).mono hintact.end_le ⟨Nat.le_refl _, Nat.le_refl _⟩ ?_ _
      intro k hk
      cases c <;> simp [WriterCall.mark, hk]
  | effect =>
    unfold act at hact
    cases hpending : s.pending with
    | nil => simp [hpending] at hact
    | cons e rest =>
      have hsafe := h.safe
      simp only [hpending, Option.some.injEq] at hact hsafe
      subst hact
      obtain ⟨_, hadv, hrest⟩ := hsafe
      refine ⟨hrest, fun r => ?_⟩
      have hreader := (h.readers r).mono hintact.end_le hadv (fun k hk => hk) []
      rwa [List.append_nil] at hreader
  | request r req =>
    have hs' : s' = { s with readers := Function.update s.readers r (.begin req) } := by
      unfold act at hact
      grind
    subst hs'
    exact ⟨h.safe, (Function.forall_update_iff _ _).mpr ⟨trivial, fun r' _ => h.readers r'⟩⟩
  | access r =>
    cases hact
    refine ⟨h.safe, (Function.forall_update_iff _ _).mpr ⟨?_, fun r' _ => h.readers r'⟩⟩
    exact FileRingReader.step_sound hcap hintact hbound (h.readers r)

lemma length_le_of_act (hact : s.act a = some s') : s.appended.length ≤ s'.appended.length := by
  unfold act at hact
  cases a <;> grind

/-- No read is torn: whatever the interleaving, a chunk that was returned holds
exactly the bytes of the stream between its offsets. -/
theorem no_torn_read (hcap : 0 < cap) {h : List (RingAction R)} {s : RingSystem R}
    (hrun : Trace.Run (Init cap) (fun _ s a s' => s.act a = some s') h s)
    (hbound : s.appended.length < 2 ^ 64) {r : R} {req : ReadRequest} {chunk : RingChunk}
    (hdone : s.readers r = .done req (.ok chunk)) :
    chunk.Exact cap req s.appended s.eofMark := by
  have hinv : s.appended.length < 2 ^ 64 → s.Inv cap := by
    refine hrun.invariant (I := fun _ s => s.appended.length < 2 ^ 64 → s.Inv cap)
      (fun s hs _ => init_inv hs) (fun h s a s' _ ih hact hb => ?_)
    exact act_inv hcap (ih ((length_le_of_act hact).trans_lt hb)) hact hb
  have hreader := (hinv hbound).readers r
  rwa [hdone] at hreader

/-- A ring of two cells, one writer and one reader. -/
def twoCells : RingSystem Unit :=
  { files := ⟨[], .new 2⟩, ring := ⟨.new 2⟩, pending := [], appended := [], eofMark := none,
    readers := fun _ => .idle }

/-- Three bytes are appended and read from offset 1; the end is marked during the read. -/
def wrapAround : List (RingAction Unit) :=
  .call (.append [7, 8, 9]) :: List.replicate 4 .effect ++
    [.request () ⟨1, 8⟩, .access (), .access (), .call .markEof, .access (), .effect] ++
    List.replicate 3 (.access ())

theorem no_torn_read_wrapAround :
    ∃ s, wrapAround.foldlM act twoCells = some s ∧
      RingChunk.Exact ⟨[8, 9], 1, 3, 3, 1, true, false⟩ 2 ⟨1, 8⟩ s.appended s.eofMark := by
  obtain ⟨s, hs⟩ : ∃ s, wrapAround.foldlM act twoCells = some s := ⟨_, rfl⟩
  have hrun : Trace.Run (Init 2) (fun _ s a s' => s.act a = some s') ([] ++ wrapAround) s :=
    Trace.Run.of_foldlM (fun _ _ _ _ h => h) _ (.nil ⟨rfl, rfl, rfl, rfl, rfl, fun _ => rfl⟩) hs
  have hlen : s.appended.length = 3 := by
    cases hs
    rfl
  refine ⟨s, hs, no_torn_read (by decide) hrun (by omega) (r := ()) ?_⟩
  cases hs
  rfl

end RingSystem

end D2b.ExecRunner

import D2b.Lib.Text

/-!
# D2b.PrivBroker.Hosts

The managed block of `/etc/hosts` (`ops/hosts.rs`, `d2b-host` `routes.rs`).  The
region between the markers is found by text search: from the first begin marker
to the next end marker, with the rest of its line.  A body whose first begin
marker starts a line and is closed, and that has no other one, keeps its foreign
lines in every run (`foreign_lines_kept`); one with a begin marker that nothing
closes does not (`unclosed_marker_loses_line`).
-/

namespace D2b.Hosts

open Text

abbrev HOSTS_MANAGED_BEGIN : List Char := "# d2b-managed begin".toList

abbrev HOSTS_MANAGED_END : List Char := "# d2b-managed end".toList

/-- The part of a hosts intent that the marker operations read. -/
structure ResolvedHostsIntent where
  managedBlock : List Char
  startMarker : List Char
  endMarker : List Char

/-! ## texts -/

/-- Where the first line of the text ends, its line feed included. -/
def lineEnd (text : List Char) : Nat := ((text.findIdx? (· = '\n')).map (· + 1)).getD text.length

lemma lineEnd_feed (text : List Char) : lineEnd ('\n' :: text) = 1 := by
  simp [lineEnd, List.findIdx?_cons]

/-- The first line is complete, or there is nothing after it. -/
lemma endsLine_take_lineEnd (start text : List Char) :
    EndsLine (start ++ text.take (lineEnd text)) ∨ text.drop (lineEnd text) = [] := by
  unfold lineEnd
  cases hfound : text.findIdx? (· = '\n') with
  | none => exact .inr (by simp)
  | some i =>
    obtain ⟨hlt, hfeed, -⟩ := List.findIdx?_eq_some_iff_getElem.mp hfound
    left
    have htake : text.take (i + 1) = text.take i ++ ['\n'] := by
      rw [List.take_succ_eq_append_getElem hlt, of_decide_eq_true hfeed]
    simp [EndsLine, htake]

/-- What stands before and after the managed region. -/
def managedRegion (start stop existing : List Char) : Option (List Char × List Char) :=
  match splitOnce start existing with
  | none => none
  | some (before, rest) =>
    match splitOnce stop (start ++ rest) with
    | none => none
    | some (_, tail) => some (before, tail.drop (lineEnd tail))

def spliceMarkerBlock (existing newBlock start stop : List Char) : List Char :=
  match managedRegion start stop existing with
  | some (before, after) => before ++ newBlock ++ after
  | none => (if EndsLine existing then existing else existing ++ ['\n']) ++ newBlock

def removeMarkerBlockFromExisting (existing start stop : List Char) : List Char :=
  match managedRegion start stop existing with
  | some (before, after) => before ++ after
  | none => existing

def extractManagedBlock (hostsBody : List Char) : Option (List Char) :=
  match splitOnce HOSTS_MANAGED_BEGIN hostsBody with
  | none => none
  | some (_, rest) =>
    match splitOnce HOSTS_MANAGED_END (HOSTS_MANAGED_BEGIN ++ rest) with
    | none => none
    | some (inner, tail) =>
      some (inner ++ HOSTS_MANAGED_END ++ tail.take (lineEnd tail))

/-! ## operations -/

inductive WriteMarkerBlockError where
  | io (detail : String)
  | reconcileExec (detail : String)
  deriving DecidableEq

/-- How the check of the parent directory, the read of a file that exists and the
atomic replacement end. -/
structure HostsIo where
  parent : Except String Unit
  read : Except String Unit
  write : Except String Unit

/-- The answer of an operation, with the file it leaves (`none` if there is none). -/
abbrev Outcome := Except WriteMarkerBlockError Unit × Option (List Char)

/-- `write_atomic_file`: all of the new text, or the file as it was. -/
def HostsIo.replace (io : HostsIo) (file : Option (List Char)) (merged : List Char) : Outcome :=
  match io.write with
  | .error detail => (.error (.reconcileExec detail), file)
  | .ok _ => (.ok (), some merged)

/-- The checks before the file is used. -/
def HostsIo.opened (io : HostsIo) (file : Option (List Char)) :
    Except WriteMarkerBlockError (Option (List Char)) :=
  match io.parent, file, io.read with
  | .error detail, _, _ => .error (.io detail)
  | .ok _, none, _ => .ok none
  | .ok _, some _, .error detail => .error (.io detail)
  | .ok _, some text, .ok _ => .ok (some text)

def writeMarkerBlock (io : HostsIo) (intent : ResolvedHostsIntent) (file : Option (List Char)) :
    Outcome :=
  match io.opened file with
  | .error e => (.error e, file)
  | .ok existing => io.replace file
      (spliceMarkerBlock (existing.getD []) intent.managedBlock intent.startMarker intent.endMarker)

def removeMarkerBlock (io : HostsIo) (intent : ResolvedHostsIntent) (file : Option (List Char)) :
    Outcome :=
  match io.opened file with
  | .error e => (.error e, file)
  | .ok none => (.ok (), file)
  | .ok (some existing) =>
    let merged := removeMarkerBlockFromExisting existing intent.startMarker intent.endMarker
    if merged = existing then (.ok (), file) else io.replace file merged

/-- One request for the hosts file; `destroy` asks for removal. -/
structure HostsCall where
  io : HostsIo
  intent : ResolvedHostsIntent
  destroy : Bool

def HostsCall.perform (call : HostsCall) (file : Option (List Char)) : Outcome :=
  if call.destroy then removeMarkerBlock call.io call.intent file
  else writeMarkerBlock call.io call.intent file

def runCalls (calls : List HostsCall) (file : Option (List Char)) : Option (List Char) :=
  calls.foldl (fun file call => (call.perform file).2) file

/-! ## foreign lines -/

section

variable (body : List Char)

/-- The region between the markers of this program. -/
def region : Option (List Char × List Char) :=
  managedRegion HOSTS_MANAGED_BEGIN HOSTS_MANAGED_END body

/-- The lines of a body that lie outside its first complete region. -/
def foreignLines : List (List Char) :=
  match region body with
  | none => lines body
  | some (before, after) => lines (before.rdropWhile (· ≠ '\n')) ++ lines after

/-- The block starts with the begin-marker line and ends with the end-marker line. -/
structure ResolvedHostsIntent.WellFormed (intent : ResolvedHostsIntent) : Prop where
  start : intent.startMarker = HOSTS_MANAGED_BEGIN
  stop : intent.endMarker = HOSTS_MANAGED_END
  block : ∃ inner, intent.managedBlock =
    HOSTS_MANAGED_BEGIN ++ '\n' :: inner ++ HOSTS_MANAGED_END ++ ['\n']

/-- The end marker stands only on the last line of the block. -/
def ResolvedHostsIntent.ClosedOnce (intent : ResolvedHostsIntent) : Prop :=
  ∀ inner, intent.managedBlock = inner ++ HOSTS_MANAGED_END ++ ['\n'] →
    ¬ HOSTS_MANAGED_END <:+: inner

/-- The first begin marker starts a line and is closed, and there is no other one. -/
def Unambiguous : Prop :=
  match region body with
  | none => ¬ HOSTS_MANAGED_BEGIN <:+: body
  | some (before, after) => EndsLine before ∧ ¬ HOSTS_MANAGED_BEGIN <:+: before ++ after

instance : Decidable (Unambiguous body) := by
  unfold Unambiguous
  exact match region body with
    | none => inferInstance
    | some _ => inferInstance

end

lemma unbordered_begin : Unbordered HOSTS_MANAGED_BEGIN := by decide +kernel

lemma unbordered_end : Unbordered HOSTS_MANAGED_END := by decide +kernel

lemma rdropWhile_of_endsLine (h : EndsLine text) : text.rdropWhile (· ≠ '\n') = text := by
  rw [List.rdropWhile_eq_self_iff]
  intro hne
  simpa using h _ (by simp [List.getLast?_eq_some_getLast hne])

lemma region_of_not_infix (h : ¬ HOSTS_MANAGED_BEGIN <:+: body) : region body = none := by
  rw [region, managedRegion, splitOnce_eq_none h]

lemma eq_of_region (h : region body = some (before, after)) :
    ∃ middle, body = before ++ (middle ++ after) ∧ (EndsLine middle ∨ after = []) := by
  unfold region managedRegion at h
  cases hstart : splitOnce HOSTS_MANAGED_BEGIN body with
  | none => simp [hstart] at h
  | some found =>
    simp only [hstart] at h
    cases hstop : splitOnce HOSTS_MANAGED_END (HOSTS_MANAGED_BEGIN ++ found.2) with
    | none => simp [hstop] at h
    | some closed =>
      simp only [hstop] at h
      cases h
      refine ⟨closed.1 ++ HOSTS_MANAGED_END ++ closed.2.take (lineEnd closed.2), ?_,
        endsLine_take_lineEnd _ _⟩
      rw [eq_of_splitOnce hstart, eq_of_splitOnce hstop, List.append_assoc,
        List.append_assoc, List.take_append_drop]

section

variable {intent : ResolvedHostsIntent} (hwf : intent.WellFormed) (honce : intent.ClosedOnce)
  (h : ¬ HOSTS_MANAGED_BEGIN <:+: before) (after : List Char)

include hwf honce h

/-- The block is found where it was put, if nothing before it holds a begin marker. -/
lemma searches_block :
    ∃ rest inner, intent.managedBlock = inner ++ HOSTS_MANAGED_END ++ ['\n'] ∧
      splitOnce HOSTS_MANAGED_BEGIN (before ++ intent.managedBlock ++ after) = some (before, rest) ∧
      splitOnce HOSTS_MANAGED_END (HOSTS_MANAGED_BEGIN ++ rest) = some (inner, '\n' :: after) := by
  obtain ⟨inner, hblock⟩ := hwf.block
  have hfirst := unbordered_end.startsAfter (honce (HOSTS_MANAGED_BEGIN ++ '\n' :: inner) hblock)
  refine ⟨'\n' :: inner ++ HOSTS_MANAGED_END ++ '\n' :: after,
    HOSTS_MANAGED_BEGIN ++ '\n' :: inner, hblock, ?_, ?_⟩
  · rw [hblock, ← splitOnce_append (unbordered_begin.startsAfter h)]
    simp
  · rw [← splitOnce_append hfirst]
    simp

lemma region_block : region (before ++ intent.managedBlock ++ after) = some (before, after) := by
  obtain ⟨rest, inner, -, hstart, hstop⟩ := searches_block hwf honce h after
  rw [region, managedRegion, hstart]
  simp [hstop, lineEnd_feed]

lemma extractManagedBlock_block :
    extractManagedBlock (before ++ intent.managedBlock ++ after) = some intent.managedBlock := by
  obtain ⟨rest, inner, hblock, hstart, hstop⟩ := searches_block hwf honce h after
  rw [extractManagedBlock, hstart]
  simp [hstop, lineEnd_feed, hblock]

end

/-! ## one operation -/

/-- The foreign lines are among those of the body. -/
lemma Unambiguous.foreignLines_sublist (h : Unambiguous body) :
    (foreignLines body).Sublist (lines body) := by
  unfold foreignLines
  unfold Unambiguous at h
  cases hregion : region body with
  | none => exact .refl _
  | some parts =>
    simp only [hregion] at h
    obtain ⟨middle, hbody, hmiddle⟩ := eq_of_region hregion
    simp only [rdropWhile_of_endsLine h.1]
    rw [hbody, lines_append h.1, List.append_sublist_append_left]
    rcases hmiddle with hend | hnil
    · rw [lines_append hend]
      exact List.sublist_append_right _ _
    · rw [hnil]
      exact List.nil_sublist _

/-- A body in which the block was put, and what its foreign lines are. -/
lemma splice_spec {intent : ResolvedHostsIntent} (hwf : intent.WellFormed)
    (h : Unambiguous body) :
    ∃ before after, spliceMarkerBlock body intent.managedBlock intent.startMarker intent.endMarker =
        before ++ intent.managedBlock ++ after ∧ EndsLine before ∧
      ¬ HOSTS_MANAGED_BEGIN <:+: before ++ after ∧
      foreignLines body = lines before ++ lines after := by
  rw [hwf.start, hwf.stop, spliceMarkerBlock, ← region, foreignLines]
  unfold Unambiguous at h
  cases hregion : region body with
  | some parts =>
    simp only [hregion] at h
    exact ⟨parts.1, parts.2, rfl, h.1, h.2, by simp only [rdropWhile_of_endsLine h.1]⟩
  | none =>
    simp only [hregion] at h
    by_cases hend : EndsLine body
    · exact ⟨body, [], by simp [hend], hend, by simpa using h, by simp [lines]⟩
    · refine ⟨body ++ ['\n'], [], by simp [hend], by simp [EndsLine], ?_, ?_⟩
      · rw [List.append_nil]
        exact fun hin => h (infix_of_infix_append (by decide) (by simp [HOSTS_MANAGED_BEGIN]) hin)
      · rw [lines_append_feed hend, lines, lines, List.foldr_nil, List.append_nil]

lemma remove_spec {intent : ResolvedHostsIntent} (hwf : intent.WellFormed)
    (h : Unambiguous body) :
    Unambiguous (removeMarkerBlockFromExisting body intent.startMarker intent.endMarker) ∧
      foreignLines (removeMarkerBlockFromExisting body intent.startMarker intent.endMarker) =
        foreignLines body := by
  rw [hwf.start, hwf.stop, removeMarkerBlockFromExisting, ← region]
  have hbody := h
  unfold Unambiguous at h
  cases hregion : region body with
  | none => exact ⟨hbody, rfl⟩
  | some parts =>
    simp only [hregion] at h
    have hnone := region_of_not_infix h.2
    rw [Unambiguous, foreignLines, foreignLines, hnone, hregion]
    simp only [rdropWhile_of_endsLine h.1]
    exact ⟨h.2, lines_append h.1 _⟩

/-! ## runs -/

/-- What a run keeps: the body can be searched, and has the foreign lines it had. -/
def Keeps (foreign : List (List Char)) (file : Option (List Char)) : Prop :=
  Unambiguous (file.getD []) ∧ foreignLines (file.getD []) = foreign

lemma keeps_splice {intent : ResolvedHostsIntent} (hwf : intent.WellFormed)
    (honce : intent.ClosedOnce) (h : Unambiguous body) :
    Keeps (foreignLines body) (some
      (spliceMarkerBlock body intent.managedBlock intent.startMarker intent.endMarker)) := by
  obtain ⟨before, after, hbody, hend, hnone, hlines⟩ := splice_spec hwf h
  have hbefore : ¬ HOSTS_MANAGED_BEGIN <:+: before := fun hin =>
    hnone (hin.trans (List.prefix_append before after).isInfix)
  have hregion := region_block hwf honce hbefore after
  simp only [Keeps, Option.getD_some, hbody, Unambiguous, foreignLines, hregion,
    rdropWhile_of_endsLine hend]
  exact ⟨⟨hend, hnone⟩, hlines.symm⟩

variable {io : HostsIo} {file : Option (List Char)}

/-- What the checks let through is the file. -/
lemma eq_of_opened (h : io.opened file = .ok existing) : existing = file := by
  unfold HostsIo.opened at h
  split at h <;> simp_all

/-- The file is replaced, or the answer is an error and it stays. -/
lemma replace_cases (io : HostsIo) (file : Option (List Char)) (merged : List Char) :
    io.replace file merged = (.ok (), some merged) ∨
      ∃ e, io.replace file merged = (.error e, file) := by
  unfold HostsIo.replace
  cases io.write with
  | ok _ => exact .inl rfl
  | error detail => exact .inr ⟨_, rfl⟩

lemma write_cases (io : HostsIo) (intent : ResolvedHostsIntent) (file : Option (List Char)) :
    writeMarkerBlock io intent file = (.ok (), some (spliceMarkerBlock (file.getD [])
        intent.managedBlock intent.startMarker intent.endMarker)) ∨
      ∃ e, writeMarkerBlock io intent file = (.error e, file) := by
  unfold writeMarkerBlock
  cases hopened : io.opened file with
  | error e => exact .inr ⟨e, rfl⟩
  | ok existing =>
    rw [← eq_of_opened hopened]
    exact replace_cases io existing _

lemma keeps_write (hwf : intent.WellFormed) (honce : intent.ClosedOnce) (h : Keeps foreign file) :
    Keeps foreign (writeMarkerBlock io intent file).2 := by
  rcases write_cases io intent file with hok | ⟨e, herror⟩
  · rw [hok, ← h.2]
    exact keeps_splice hwf honce h.1
  · rw [herror]
    exact h

lemma keeps_remove (hwf : intent.WellFormed) (h : Keeps foreign file) :
    Keeps foreign (removeMarkerBlock io intent file).2 := by
  unfold removeMarkerBlock
  split
  · exact h
  · exact h
  · next existing hopened =>
      obtain rfl := eq_of_opened hopened
      dsimp only
      split
      · exact h
      · rcases replace_cases io (some existing) (removeMarkerBlockFromExisting existing
            intent.startMarker intent.endMarker) with hok | ⟨e, herror⟩
        · rw [hok, ← h.2]
          exact remove_spec hwf h.1
        · rw [herror]
          exact h

lemma keeps_runCalls (hcalls : ∀ call ∈ calls, call.intent.WellFormed ∧ call.intent.ClosedOnce)
    (h : Keeps foreign file) : Keeps foreign (runCalls calls file) := by
  induction calls generalizing file with
  | nil => exact h
  | cons call calls ih =>
    obtain ⟨hwf, honce⟩ := hcalls call List.mem_cons_self
    refine ih (fun call hmem => hcalls call (List.mem_cons_of_mem _ hmem)) ?_
    dsimp only [HostsCall.perform]
    split
    · exact keeps_remove hwf h
    · exact keeps_write hwf honce h

/-- A block that was written is extracted as it was, and writing it again changes nothing. -/
lemma written_block (hwf : intent.WellFormed) (honce : intent.ClosedOnce)
    (h : Unambiguous (file.getD [])) (hok : (writeMarkerBlock io intent file).1 = .ok ()) :
    ∃ text, (writeMarkerBlock io intent file).2 = some text ∧
      extractManagedBlock text = some intent.managedBlock ∧
      ∀ again, (writeMarkerBlock again intent (some text)).2 = some text := by
  obtain ⟨before, after, hbody, -, hnone, -⟩ := splice_spec hwf h
  have hbefore : ¬ HOSTS_MANAGED_BEGIN <:+: before := fun hin =>
    hnone (hin.trans (List.prefix_append before after).isInfix)
  rcases write_cases io intent file with hwritten | ⟨e, herror⟩
  · rw [hwritten, hbody]
    refine ⟨_, rfl, extractManagedBlock_block hwf honce hbefore after, fun again => ?_⟩
    rcases write_cases again intent (some (before ++ intent.managedBlock ++ after)) with
      hagain | ⟨e, hfailed⟩
    · have hregion := region_block hwf honce hbefore after
      rw [hagain, Option.getD_some, hwf.start, hwf.stop, spliceMarkerBlock, ← region, hregion]
    · rw [hfailed]
  · rw [herror] at hok
    contradiction

/-- From a body whose only begin marker starts a line and is closed, every run of writes and
removals keeps the foreign lines in order; a write that succeeds leaves the block as it was
given, and repeating it changes nothing. -/
theorem foreign_lines_kept (file : Option (List Char)) (calls : List HostsCall)
    (hfile : Unambiguous (file.getD []))
    (hcalls : ∀ call ∈ calls, call.intent.WellFormed ∧ call.intent.ClosedOnce) :
    (foreignLines (file.getD [])).Sublist (lines ((runCalls calls file).getD [])) ∧
    ∀ io intent, intent.WellFormed → intent.ClosedOnce →
      (writeMarkerBlock io intent (runCalls calls file)).1 = .ok () →
      ∃ text, (writeMarkerBlock io intent (runCalls calls file)).2 = some text ∧
        extractManagedBlock text = some intent.managedBlock ∧
        ∀ again, (writeMarkerBlock again intent (some text)).2 = some text := by
  have hkept : Keeps (foreignLines (file.getD [])) (runCalls calls file) :=
    keeps_runCalls hcalls ⟨hfile, rfl⟩
  refine ⟨?_, fun io intent hwf honce hok => written_block hwf honce hkept.1 hok⟩
  rw [← hkept.2]
  exact hkept.1.foreignLines_sublist

/-! ## a hosts file -/

namespace Sample

/-- Every call of the operation succeeds. -/
def calm : HostsIo := ⟨.ok (), .ok (), .ok ()⟩

def intent : ResolvedHostsIntent where
  managedBlock := "# d2b-managed begin\n10.0.0.3 vm\n# d2b-managed end\n".toList
  startMarker := HOSTS_MANAGED_BEGIN
  endMarker := HOSTS_MANAGED_END

def write : HostsCall := ⟨calm, intent, false⟩

def remove : HostsCall := ⟨calm, intent, true⟩

lemma intent_wellFormed : intent.WellFormed :=
  ⟨rfl, rfl, "10.0.0.3 vm\n".toList, by decide +kernel⟩

lemma intent_closedOnce : intent.ClosedOnce := by
  intro inner hblock
  have hinner : inner = "# d2b-managed begin\n10.0.0.3 vm\n".toList := by
    have hparts : inner ++ (HOSTS_MANAGED_END ++ ['\n']) =
        "# d2b-managed begin\n10.0.0.3 vm\n".toList ++ (HOSTS_MANAGED_END ++ ['\n']) := by
      rw [← List.append_assoc, ← hblock]
      decide +kernel
    exact List.append_cancel_right hparts
  rw [hinner]
  decide +kernel

/-- A body with a managed region between foreign lines. -/
def body : List Char :=
  "127.0.0.1 a\n# d2b-managed begin\nold\n# d2b-managed end\n10.1.1.1 b".toList

/-- A body with a begin marker that nothing closes. -/
def unclosed : List Char := "127.0.0.1 a\n# d2b-managed begin\n10.1.1.1 b\n".toList

end Sample

open Sample in
theorem foreign_lines_kept_rewritten :
    ["127.0.0.1 a".toList, "10.1.1.1 b".toList].Sublist
      (lines ((runCalls [write, remove, write] (some body)).getD [])) := by
  have h := (foreign_lines_kept (some body) [write, remove, write] (by decide +kernel) (by
    simp [write, remove, intent_wellFormed, intent_closedOnce])).1
  exact h

open Sample in
/-- Two writes into a body with an unclosed begin marker lose the foreign line after it, and the
block that is extracted after the first is not the one that was written. -/
theorem unclosed_marker_loses_line :
    intent.WellFormed ∧ intent.ClosedOnce ∧
    "10.1.1.1 b".toList ∈ foreignLines unclosed ∧
    "10.1.1.1 b".toList ∉ lines ((runCalls [write, write] (some unclosed)).getD []) ∧
    extractManagedBlock ((runCalls [write] (some unclosed)).getD []) ≠
      some intent.managedBlock := by
  refine ⟨intent_wellFormed, intent_closedOnce, ?_⟩
  decide +kernel

end D2b.Hosts

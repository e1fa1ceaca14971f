import Mathlib.Algebra.BigOperators.Group.List.Basic
import Mathlib.Algebra.Ring.Nat
import D2b.Lib.Run

/-!
# D2b.Lib.CreditStream

One stream between two ends that send each other frames over reliable
channels.  An end opens the stream and tells the other; then each end grants
the other credit for data frames, and sends data frames against the credit it
was granted, numbered one after the other.  Counters have a greatest value
`cap`: credit saturates there and numbers start again after it.

`Law` is the conservation law of one direction while the receiver has the
stream open: the credit it gave out is with the sender, under way to it, or
spent on data under way.  The sender may be gone, since an end closes on its
own; then credit under way to it is lost and the law is an inequality.
`law_of_run` is the law over runs in which the stream is opened once and no
end grants more than `cap`.
-/

namespace CreditStream

open Function List Option

/-- The two ends. -/
inductive Side where
  | left | right
deriving DecidableEq

namespace Side

/-- The end across. -/
def other : Side → Side
  | left => right
  | right => left

@[simp] lemma other_other (b : Side) : b.other.other = b := by cases b <;> rfl

@[simp] lemma other_ne (b : Side) : b.other ≠ b := by cases b <;> decide

@[simp] lemma ne_other (b : Side) : b ≠ b.other := by cases b <;> decide

lemma eq_or_eq_other (a b : Side) : a = b ∨ a = b.other := by
  cases a <;> cases b <;> decide

end Side

/-! ## frames and ends -/

variable {κ χ : Type}

/-- What is sent about the stream: its kind at the opening, credit for the
other end, numbered data on a channel, or the close. -/
inductive Frame (κ χ : Type) where
  | opens (kind : κ)
  | flow (credits : Nat)
  | data (number : Nat) (channel : χ)
  | close

namespace Frame

def number : Frame κ χ → Option Nat
  | .data n _ => some n
  | _ => none

def credits : Frame κ χ → Nat
  | .flow n => n
  | _ => 0

end Frame

/-- The numbers of the data frames in a channel. -/
def numbers (l : List (Frame κ χ)) : List Nat := l.filterMap Frame.number

def credits (l : List (Frame κ χ)) : Nat := (l.map Frame.credits).sum

section

variable (l m : List (Frame κ χ)) (f : Frame κ χ)

@[simp] lemma numbers_nil : numbers ([] : List (Frame κ χ)) = [] := rfl

@[simp] lemma numbers_append : numbers (l ++ m) = numbers l ++ numbers m := by
  simp [numbers]

lemma numbers_cons : numbers (f :: l) = f.number.toList ++ numbers l := by
  unfold numbers
  rw [filterMap_cons]
  cases f.number <;> rfl

@[simp] lemma credits_nil : credits ([] : List (Frame κ χ)) = 0 := rfl

@[simp] lemma credits_append : credits (l ++ m) = credits l + credits m := by
  simp [credits]

@[simp] lemma credits_cons : credits (f :: l) = f.credits + credits l := by
  simp [credits]

end

/-- What an end keeps of the stream. -/
structure Entry (κ : Type) where
  kind : κ
  isOpen : Bool
  expected : Nat
  recvCredit : Nat
  next : Nat
  sendCredit : Nat

/-- The entry of a stream just opened. -/
def Entry.fresh (kind : κ) : Entry κ := ⟨kind, true, 0, 0, 0, 0⟩

/-- The credit an end may spend. -/
def sendCredit (x : Option (Entry κ)) : Nat := (x.map (·.sendCredit)).getD 0

/-- The number of the next data frame of an end. -/
def next (x : Option (Entry κ)) : Nat := (x.map (·.next)).getD 0

@[simp] lemma sendCredit_none : sendCredit (none : Option (Entry κ)) = 0 := rfl

@[simp] lemma sendCredit_some (e : Entry κ) : sendCredit (some e) = e.sendCredit := rfl

@[simp] lemma next_some (e : Entry κ) : next (some e) = e.next := rfl

/-! ## steps -/

section

variable (cap : Nat) (valid : κ → χ → Bool)

/-- What an end does on its own, and the frame it sends. -/
inductive Acts : Option (Entry κ) → Option (Frame κ χ) → Option (Entry κ) → Prop
  | stays : Acts x none x
  | forgets {e : Entry κ} (hclosed : e.isOpen = false) : Acts (some e) none none
  | opens : Acts none (some (.opens kind)) (some (.fresh kind))
  | grants {e : Entry κ} {n} (hopen : e.isOpen = true) :
      Acts (some e) (some (.flow n)) (some { e with recvCredit := min (e.recvCredit + n) cap })
  | sends {e : Entry κ} {channel} (hopen : e.isOpen = true) (hvalid : valid e.kind channel = true)
      (hcredit : 0 < e.sendCredit) :
      Acts (some e) (some (.data e.next channel))
        (some { e with sendCredit := e.sendCredit - 1, next := (e.next + 1) % (cap + 1) })
  | closes {e : Entry κ} {x} (hopen : e.isOpen = true)
      (hx : x = none ∨ x = some { e with isOpen := false }) : Acts (some e) (some .close) x
  | repeats {e : Entry κ} (hclosed : e.isOpen = false) : Acts (some e) (some .close) (some e)

/-- What an end does with a frame it receives. -/
inductive Takes : Option (Entry κ) → Frame κ χ → Option (Entry κ) → Prop
  | opens : Takes none (.opens kind) (some (.fresh kind))
  | refusesOpen : Takes x (.opens kind) x
  | flow {e : Entry κ} {n} (hopen : e.isOpen = true) :
      Takes (some e) (.flow n) (some { e with sendCredit := min (e.sendCredit + n) cap })
  | data {e : Entry κ} {n channel} (hopen : e.isOpen = true) (hvalid : valid e.kind channel = true)
      (hn : n = e.expected) (hcredit : 0 < e.recvCredit) :
      Takes (some e) (.data n channel)
        (some { e with recvCredit := e.recvCredit - 1, expected := (e.expected + 1) % (cap + 1) })
  | close {e : Entry κ} {x} (hopen : e.isOpen = true)
      (hx : x = none ∨ x = some { e with isOpen := false }) : Takes (some e) .close x
  | ignores {x : Option (Entry κ)} {f} (hclosed : ∀ e ∈ x, e.isOpen = false) : Takes x f x
  | rejects {e : Entry κ} {n channel}
      (hbad : ¬(valid e.kind channel = true ∧ n = e.expected ∧ 0 < e.recvCredit)) :
      Takes (some e) (.data n channel) (some e)

end

/-- The two ends, and the frames on their way to each. -/
structure State (κ χ : Type) where
  ends : Side → Option (Entry κ)
  inbox : Side → List (Frame κ χ)

/-- Before the opening. -/
def State.init (s : State κ χ) : Prop := ∀ b, s.ends b = none ∧ s.inbox b = []

/-- What a label of a run does: an end acts and may send a frame, or an end
takes the next frame that was sent to it. -/
inductive Label (κ χ : Type) where
  | acted (side : Side) (frame : Option (Frame κ χ))
  | took (side : Side)

namespace Label

/-- Whether the label opens the stream. -/
def opens : Label κ χ → Bool
  | .acted _ (some (.opens _)) => true
  | _ => false

/-- The credit that the label grants to the other end of `b`. -/
def grants (b : Side) : Label κ χ → Nat
  | .acted c (some f) => if c = b then f.credits else 0
  | _ => 0

end Label

/-- A step, under the label that says what it does. -/
inductive Step (cap : Nat) (valid : κ → χ → Bool) (s : State κ χ) : Label κ χ → State κ χ → Prop
  | acts {b : Side} {f : Option (Frame κ χ)} {x} (h : Acts cap valid (s.ends b) f x) :
      Step cap valid s (.acted b f) ⟨update s.ends b x,
        update s.inbox b.other (s.inbox b.other ++ f.toList)⟩
  | takes {b : Side} {f rest x} (hinbox : s.inbox b = f :: rest)
      (h : Takes cap valid (s.ends b) f x) :
      Step cap valid s (.took b) ⟨update s.ends b x, update s.inbox b rest⟩

/-! ## the law of one direction -/

/-- The law of a direction in which the receiver has the entry `r`: `x` is the
end of the sender, `down` the frames on their way to the receiver, `up` those
on their way to the sender, and `granted` what the receiver has granted. -/
structure Law (valid : κ → χ → Bool) (x : Option (Entry κ)) (down up : List (Frame κ χ))
    (granted : Nat) (r : Entry κ) : Prop where
  credit_le : sendCredit x + (numbers down).length + credits up ≤ r.recvCredit
  credit_eq : ∀ e, x = some e → e.isOpen = true →
    e.sendCredit + (numbers down).length + credits up = r.recvCredit
  next_eq : ∀ e, x = some e → e.next = r.expected + (numbers down).length
  numbered : numbers down = List.range' r.expected (numbers down).length
  channels : ∀ n channel, .data n channel ∈ down → valid r.kind channel = true
  kinds : ∀ e, x = some e → e.kind = r.kind
  total : r.recvCredit + r.expected = granted

namespace Law

/-- The next data frame is the one the receiver expects, and is paid for. -/
lemma head (h : Law valid x (.data n channel :: rest) up granted r) :
    valid r.kind channel = true ∧ n = r.expected ∧ 0 < r.recvCredit := by
  refine ⟨h.channels n channel mem_cons_self, ?_, ?_⟩
  · have hnum := h.numbered
    rw [numbers_cons] at hnum
    exact (cons.inj hnum).1
  · have hle := h.credit_le
    rw [numbers_cons] at hle
    simp only [Frame.number, toList_some, length_append, length_singleton] at hle
    omega

/-- What the sender keeps of the other direction does not count, and it may close. -/
lemma sender_keeps (h : Law valid (some e) down up granted r) (hkind : e'.kind = e.kind)
    (hnext : e'.next = e.next) (hcredit : e'.sendCredit = e.sendCredit)
    (hopen : e'.isOpen = true → e.isOpen = true) : Law valid (some e') down up granted r := by
  refine ⟨?_, ?_, ?_, h.numbered, h.channels, ?_, h.total⟩
  · rw [sendCredit_some, hcredit]
    exact h.credit_le
  · rintro _ ⟨⟩ hopen'
    rw [hcredit]
    exact h.credit_eq e rfl (hopen hopen')
  · rintro _ ⟨⟩
    rw [hnext]
    exact h.next_eq e rfl
  · rintro _ ⟨⟩
    rw [hkind]
    exact h.kinds e rfl

/-- An end of the sender that is gone, or has closed, keeps the law. -/
lemma sender_gone (h : Law valid (some e) down up granted r)
    (hx : x' = none ∨ x' = some { e with isOpen := false }) : Law valid x' down up granted r := by
  rcases hx with rfl | rfl
  · refine ⟨?_, by simp, by simp, h.numbered, h.channels, by simp, h.total⟩
    have hle := h.credit_le
    rw [sendCredit_none]
    omega
  · exact h.sender_keeps rfl rfl rfl (fun hopen => absurd hopen Bool.false_ne_true)

/-- A frame to the receiver that is not data does not count. -/
lemma down_snoc (h : Law valid x down up granted r) (hf : f.number = none) :
    Law valid x (down ++ [f]) up granted r := by
  have hnum : numbers (down ++ [f]) = numbers down := by
    rw [numbers_append, numbers_cons, hf]
    simp
  obtain ⟨hle, heq, hnext, hnumbered, hchannels, hkinds, htotal⟩ := h
  rw [← hnum] at hle heq hnext hnumbered
  refine ⟨hle, heq, hnext, hnumbered, fun n channel hmem => ?_, hkinds, htotal⟩
  rcases Trace.mem_snoc.mp hmem with hmem | hlast
  · exact hchannels n channel hmem
  · cases hlast
    contradiction

/-- The sender acts. -/
lemma sender_acts (h : Law valid x down up granted r) (hacts : Acts cap valid x f x')
    (hopens : ∀ kind, f ≠ some (.opens kind)) (hcap : granted ≤ cap) :
    Law valid x' (down ++ f.toList) up granted r := by
  cases hacts with
  | stays => simpa using h
  | forgets => simpa using h.sender_gone (.inl rfl)
  | @opens kind => exact absurd rfl (hopens kind)
  | @grants _ n => exact (h.down_snoc (f := .flow n) rfl).sender_keeps rfl rfl rfl id
  | @closes e x' hopen hx => exact (h.down_snoc (f := .close) rfl).sender_gone hx
  | repeats => exact h.down_snoc (f := .close) rfl
  | @sends e channel hopen hvalid hcredit =>
    have hnum : numbers (down ++ [.data e.next channel]) = numbers down ++ [e.next] := by
      rw [numbers_append, numbers_cons]
      rfl
    have hlen : (numbers (down ++ [.data e.next channel])).length = (numbers down).length + 1 := by
      rw [hnum, length_append, length_singleton]
    have heq := h.credit_eq e rfl hopen
    have hnext := h.next_eq e rfl
    have htotal := h.total
    -- the credit spent is part of what was granted, so the numbers do not start again
    have hmod : (e.next + 1) % (cap + 1) = e.next + 1 := Nat.mod_eq_of_lt (by omega)
    refine ⟨?_, ?_, ?_, ?_, ?_, ?_, htotal⟩
    · rw [toList_some, hlen, sendCredit_some]
      simp only
      omega
    · rintro e' ⟨⟩ -
      rw [toList_some, hlen]
      simp only
      omega
    · rintro e' ⟨⟩
      rw [toList_some, hlen]
      simp only [hmod]
      omega
    · rw [toList_some, hlen, hnum, h.numbered, hnext, length_range', range'_concat, Nat.one_mul]
    · intro n channel' hmem
      rcases Trace.mem_snoc.mp hmem with hmem | hlast
      · exact h.channels n channel' hmem
      · cases hlast
        rwa [← h.kinds e rfl]
    · rintro e' ⟨⟩
      exact h.kinds e rfl

/-- The receiver acts, and still has the stream open. -/
lemma receiver_acts (h : Law valid x down up granted r)
    (hacts : Acts cap valid (some r) f (some r')) (hopen' : r'.isOpen = true)
    (hcap : granted + (f.map Frame.credits).getD 0 ≤ cap) :
    Law valid x down (up ++ f.toList) (granted + (f.map Frame.credits).getD 0) r' := by
  cases hacts with
  | stays => simpa using h
  | @grants e n hopen =>
    have htotal := h.total
    have hsat : min (r.recvCredit + n) cap = r.recvCredit + n := by
      simp only [map_some, Frame.credits, getD_some] at hcap
      omega
    have hcredits : credits (up ++ [.flow n]) = credits up + n := by
      rw [credits_append, credits_cons]
      rfl
    refine ⟨?_, ?_, h.next_eq, h.numbered, h.channels, h.kinds, ?_⟩
    · have hle := h.credit_le
      rw [toList_some, hcredits]
      simp only [hsat]
      omega
    · intro e he hopen
      have heq := h.credit_eq e he hopen
      rw [toList_some, hcredits]
      simp only [hsat]
      omega
    · simp only [hsat, map_some, Frame.credits, getD_some]
      omega
  | @sends e channel hopen hvalid hcredit =>
    have hcredits : credits (up ++ [.data r.next channel]) = credits up := by
      rw [credits_append, credits_cons]
      rfl
    refine ⟨?_, ?_, h.next_eq, h.numbered, h.channels, h.kinds, h.total⟩
    · rw [toList_some, hcredits]
      exact h.credit_le
    · rw [toList_some, hcredits]
      exact h.credit_eq
  | closes hopen hx =>
    rcases hx with hx | hx
    · contradiction
    · cases hx
      contradiction
  | repeats hclosed =>
    rw [hclosed] at hopen'
    contradiction

/-- The sender takes a frame. -/
lemma sender_takes (h : Law valid x down (f :: up) granted r) (htakes : Takes cap valid x f x')
    (hopens : ∀ kind, f ≠ .opens kind) (hcap : granted ≤ cap) : Law valid x' down up granted r := by
  have hle := h.credit_le
  rw [credits_cons] at hle
  -- dropping a frame without credit
  have hdrop : f.credits = 0 → Law valid x down up granted r := by
    intro hzero
    have heq := h.credit_eq
    rw [credits_cons, hzero, Nat.zero_add] at heq
    exact ⟨by omega, heq, h.next_eq, h.numbered, h.channels, h.kinds, h.total⟩
  cases htakes with
  | @opens kind => exact absurd rfl (hopens kind)
  | @refusesOpen _ kind => exact absurd rfl (hopens kind)
  | @flow e n hopen =>
    have heq := h.credit_eq e rfl hopen
    have htotal := h.total
    rw [credits_cons] at heq
    simp only [Frame.credits, sendCredit_some] at heq hle
    have hsat : min (e.sendCredit + n) cap = e.sendCredit + n := by omega
    refine ⟨?_, ?_, ?_, h.numbered, h.channels, ?_, h.total⟩
    · simp only [sendCredit_some, hsat]
      omega
    · rintro e' ⟨⟩ -
      simp only [hsat]
      omega
    · rintro e' ⟨⟩
      exact h.next_eq e rfl
    · rintro e' ⟨⟩
      exact h.kinds e rfl
  | data => exact (hdrop rfl).sender_keeps rfl rfl rfl id
  | close _ hx => exact (hdrop rfl).sender_gone hx
  | ignores hclosed =>
    refine ⟨by omega, ?_, h.next_eq, h.numbered, h.channels, h.kinds, h.total⟩
    intro e he hopen
    rw [hclosed e he] at hopen
    contradiction
  | rejects => exact hdrop rfl

/-- The receiver takes a frame, and still has the stream open. -/
lemma receiver_takes (h : Law valid x (f :: down) up granted r)
    (htakes : Takes cap valid (some r) f (some r')) (hopen : r.isOpen = true)
    (hopen' : r'.isOpen = true) (hcap : granted ≤ cap) : Law valid x down up granted r' := by
  -- a frame that is not data does not count
  have hdrop : f.number = none → Law valid x down up granted r := by
    intro hf
    have hnum : numbers (f :: down) = numbers down := by
      rw [numbers_cons, hf]
      rfl
    obtain ⟨hle, heq, hnext, hnumbered, hchannels, hkinds, htotal⟩ := h
    rw [hnum] at hle heq hnext hnumbered
    exact ⟨hle, heq, hnext, hnumbered, fun n channel hmem =>
      hchannels n channel (mem_cons_of_mem _ hmem), hkinds, htotal⟩
  cases htakes with
  | refusesOpen => exact hdrop rfl
  | flow =>
    have hlaw := hdrop rfl
    exact { hlaw with }
  | @data _ n channel _ _ hn hcredit =>
    have hnum : numbers (.data n channel :: down) = n :: numbers down := by
      rw [numbers_cons]
      rfl
    obtain ⟨hle, heq, hnext, hnumbered, hchannels, hkinds, htotal⟩ := h
    rw [hnum, length_cons] at hle heq hnext hnumbered
    have hmod : (r.expected + 1) % (cap + 1) = r.expected + 1 := Nat.mod_eq_of_lt (by omega)
    refine ⟨?_, ?_, ?_, ?_, ?_, hkinds, ?_⟩
    · simp only
      omega
    · intro e he hopen
      have := heq e he hopen
      simp only
      omega
    · intro e he
      have := hnext e he
      simp only [hmod]
      omega
    · rw [range'_succ] at hnumbered
      simp only [hmod]
      exact (cons.inj hnumbered).2
    · exact fun n' channel' hmem => hchannels n' channel' (mem_cons_of_mem _ hmem)
    · simp only [hmod]
      omega
  | close hopen hx =>
    rcases hx with hx | hx
    · contradiction
    · cases hx
      contradiction
  | ignores hclosed =>
    rw [hclosed r rfl] at hopen
    contradiction
  | rejects hbad => exact absurd h.head hbad

end Law

/-! ## runs -/

/-- While its opening is under way, the opener has only granted: `x` is its
end, and `rest` are the frames it sent after the opening. -/
structure Opening (kind : κ) (rest : List (Frame κ χ)) (granted : Nat) (x : Option (Entry κ)) :
    Prop where
  plain : ∀ f ∈ rest, (∀ kind', f ≠ .opens kind') ∧ f.number = none
  unused : ∀ e, x = some e → e.kind = kind ∧ e.next = 0 ∧ e.sendCredit = 0
  owed : ∀ e, x = some e → e.isOpen = true →
    e.expected = 0 ∧ e.recvCredit = credits rest ∧ e.recvCredit = granted

/-- The opening is under way from `o`, and the other end knows nothing of it. -/
structure Pending (granted : Side → Nat) (s : State κ χ) (o : Side) : Prop where
  opening : ∃ kind rest, s.inbox o.other = .opens kind :: rest ∧
    Opening kind rest (granted o) (s.ends o)
  silent : s.inbox o = []
  unaware : s.ends o.other = none
  ungranted : granted o.other = 0

/-- The opening has arrived: the law holds in both directions. -/
structure Settled (valid : κ → χ → Bool) (granted : Side → Nat) (s : State κ χ) : Prop where
  opened : ∀ b kind, .opens kind ∉ s.inbox b
  law : ∀ b r, s.ends b = some r → r.isOpen = true →
    Law valid (s.ends b.other) (s.inbox b) (s.inbox b.other) (granted b) r

section

variable {granted : Side → Nat} {s : State κ χ} {rest : List (Frame κ χ)}

variable {r : Entry κ}

/-- An end that has the stream open had it open, unless it just opened it. -/
lemma Acts.was_open (h : Acts cap valid x f (some r)) (hopen : r.isOpen = true)
    (hopens : ∀ kind, f ≠ some (.opens kind)) : ∃ r₀, x = some r₀ ∧ r₀.isOpen = true := by
  cases h with
  | stays | repeats => exact ⟨r, rfl, hopen⟩
  | @opens kind => exact absurd rfl (hopens kind)
  | grants hopen₀ | sends hopen₀ => exact ⟨_, rfl, hopen₀⟩
  | closes hopen₀ => exact ⟨_, rfl, hopen₀⟩

lemma Takes.was_open (h : Takes cap valid x g (some r)) (hopen : r.isOpen = true)
    (hopens : ∀ kind, g ≠ .opens kind) : ∃ r₀, x = some r₀ ∧ r₀.isOpen = true := by
  cases h with
  | @opens kind => exact absurd rfl (hopens kind)
  | refusesOpen | ignores | rejects => exact ⟨r, rfl, hopen⟩
  | flow hopen₀ | data hopen₀ | close hopen₀ => exact ⟨_, rfl, hopen₀⟩

lemma grants_acted : (Label.acted b f).grants b = (f.map Frame.credits).getD 0 := by
  cases f <;> simp [Label.grants]

lemma grants_other : (Label.acted b f).grants b.other = 0 := by
  cases f <;> simp [Label.grants]

lemma Settled.acts (h : Settled valid granted s) (hacts : Acts cap valid (s.ends b) f x)
    (hopens : ∀ kind, f ≠ some (.opens kind))
    (hcap : ∀ c, granted c + (Label.acted b f).grants c ≤ cap) :
    Settled valid (fun c => granted c + (Label.acted b f).grants c)
      ⟨update s.ends b x, update s.inbox b.other (s.inbox b.other ++ f.toList)⟩ := by
  constructor
  · intro c kind
    rcases c.eq_or_eq_other b with rfl | rfl
    · simpa using h.opened c kind
    · have hold := h.opened b.other kind
      cases f with
      | none => simpa using hold
      | some f =>
        have hne : f ≠ .opens kind := fun heq => hopens kind (congrArg some heq)
        simp [hold, hne.symm]
  · intro c r hr hopen
    have hcapc := hcap c
    rcases c.eq_or_eq_other b with rfl | rfl
    · -- the acting end receives
      simp only [update_self, update_of_ne c.other_ne,
        update_of_ne c.ne_other, grants_acted] at hr hcapc ⊢
      subst hr
      obtain ⟨r₀, hr₀, hopen₀⟩ := hacts.was_open hopen hopens
      rw [hr₀] at hacts
      exact (h.law c r₀ hr₀ hopen₀).receiver_acts hacts hopen hcapc
    · -- the acting end sends
      simp only [update_self, update_of_ne b.other_ne,
        update_of_ne b.ne_other, grants_other, Side.other_other, Nat.add_zero]
        at hr hcapc ⊢
      have hlaw := h.law b.other r hr hopen
      rw [Side.other_other] at hlaw
      exact hlaw.sender_acts hacts hopens hcapc

lemma Settled.takes (h : Settled valid granted s) (hinbox : s.inbox b = g :: rest)
    (htakes : Takes cap valid (s.ends b) g x) (hcap : ∀ c, granted c ≤ cap) :
    Settled valid granted ⟨update s.ends b x, update s.inbox b rest⟩ := by
  have hopens : ∀ kind, g ≠ .opens kind := by
    rintro kind rfl
    exact h.opened b kind (by simp [hinbox])
  constructor
  · intro c kind
    have hold := h.opened c kind
    rcases c.eq_or_eq_other b with rfl | rfl
    · rw [hinbox] at hold
      simpa using fun hmem => hold (mem_cons_of_mem _ hmem)
    · simpa using hold
  · intro c r hr hopen
    rcases c.eq_or_eq_other b with rfl | rfl
    · -- the taking end receives
      simp only [update_self, update_of_ne c.other_ne] at hr ⊢
      subst hr
      obtain ⟨r₀, hr₀, hopen₀⟩ := htakes.was_open hopen hopens
      have hlaw := h.law c r₀ hr₀ hopen₀
      rw [hinbox] at hlaw
      rw [hr₀] at htakes
      exact hlaw.receiver_takes htakes hopen₀ hopen (hcap c)
    · -- the taking end sends
      simp only [update_self, update_of_ne b.other_ne, Side.other_other]
        at hr ⊢
      have hlaw := h.law b.other r hr hopen
      rw [Side.other_other, hinbox] at hlaw
      exact hlaw.sender_takes htakes hopens (hcap b.other)

lemma Opening.numbers_rest (h : Opening kind rest n x) : numbers rest = [] :=
  filterMap_eq_nil_iff.mpr fun f hf => (h.plain f hf).2

lemma Opening.acts (h : Opening kind rest n x) (hacts : Acts cap valid x f x')
    (hopens : ∀ kind, f ≠ some (.opens kind)) (hcap : n + (f.map Frame.credits).getD 0 ≤ cap) :
    Opening kind (rest ++ f.toList) (n + (f.map Frame.credits).getD 0) x' := by
  have hplain : ∀ g : Frame κ χ, (∀ kind', g ≠ .opens kind') → g.number = none →
      ∀ f ∈ rest ++ [g], (∀ kind', f ≠ .opens kind') ∧ f.number = none := by
    exact fun g hg hnumber => Trace.forall_mem_snoc.mpr ⟨h.plain, hg, hnumber⟩
  cases hacts with
  | stays => simpa using h
  | forgets =>
    rw [toList_none, append_nil]
    exact ⟨h.plain, by simp, by simp⟩
  | @opens kind => exact absurd rfl (hopens kind)
  | @grants e m hopen =>
    obtain ⟨hexpected, hcredits, hgranted⟩ := h.owed e rfl hopen
    simp only [map_some, Frame.credits, getD_some] at hcap ⊢
    refine ⟨hplain (.flow m) (by simp) rfl, ?_, ?_⟩
    · rintro e' ⟨⟩
      exact h.unused e rfl
    · rintro e' ⟨⟩ -
      have hsat : min (e.recvCredit + m) cap = e.recvCredit + m := by omega
      refine ⟨hexpected, ?_, ?_⟩
      · simp only [hsat, toList_some, credits_append, credits_cons, credits_nil, Frame.credits]
        omega
      · simp only [hsat]
        omega
  | @sends e channel hopen hvalid hcredit =>
    rw [(h.unused e rfl).2.2] at hcredit
    contradiction
  | @closes e x' hopen hx =>
    refine ⟨hplain .close (by simp) rfl, ?_, ?_⟩
    · intro e' he'
      rcases hx with rfl | rfl
      · contradiction
      · cases he'
        exact h.unused e rfl
    · intro e' he' hopen'
      rcases hx with rfl | rfl
      · contradiction
      · cases he'
        contradiction
  | @repeats e hclosed =>
    refine ⟨hplain .close (by simp) rfl, h.unused, ?_⟩
    rintro e' ⟨⟩ hopen
    rw [hclosed] at hopen
    contradiction

/-- The law of the opener, before the opening arrives and when it is refused. -/
lemma Opening.law (h : Opening kind rest n (some e)) (hopen : e.isOpen = true) :
    Law valid none [] rest n e := by
  obtain ⟨hexpected, hcredits, hgranted⟩ := h.owed e rfl hopen
  exact ⟨by simp [hcredits], by simp, by simp, rfl, by simp, by simp, by omega⟩

lemma Law.sender_opens (h : Law valid none down up n r) (hdown : numbers down = [])
    (hexpected : r.expected = 0) (hcredits : r.recvCredit = credits up) :
    Law valid (some (.fresh r.kind)) down up n r := by
  refine ⟨h.credit_le, ?_, ?_, h.numbered, h.channels, ?_, h.total⟩
  · rintro e ⟨⟩ -
    simp [hdown, hcredits, Entry.fresh]
  · rintro e ⟨⟩
    simp [hdown, hexpected, Entry.fresh]
  · rintro e ⟨⟩
    rfl

/-- The law of an end that takes the opening. -/
lemma Opening.law_other (h : Opening kind rest n x) : Law valid x rest [] 0 (.fresh kind) := by
  have hcredit : sendCredit x = 0 := by
    cases x with
    | none => rfl
    | some e => exact (h.unused e rfl).2.2
  have hnumbers := h.numbers_rest
  refine ⟨?_, ?_, ?_, ?_, ?_, fun e he => (h.unused e he).1, rfl⟩
  · simp [hcredit, hnumbers]
  · intro e he _
    simp [hnumbers, (h.unused e he).2.2, Entry.fresh]
  · intro e he
    simp [hnumbers, (h.unused e he).2.1, Entry.fresh]
  · simp [hnumbers]
  · intro m channel hmem
    have := (h.plain _ hmem).2
    contradiction

lemma opening_fresh (kind : κ) : Opening kind ([] : List (Frame κ χ)) 0 (some (.fresh kind)) := by
  refine ⟨by simp, ?_, ?_⟩
  · rintro e ⟨⟩
    exact ⟨rfl, rfl, rfl⟩
  · rintro e ⟨⟩ -
    exact ⟨rfl, rfl, rfl⟩

lemma Pending.start (hs : s.init) (hnone : ∀ c, granted c = 0) :
    Pending (fun c => granted c + (Label.acted b (some (.opens kind : Frame κ χ))).grants c)
      ⟨update s.ends b (some (.fresh kind)),
        update s.inbox b.other (s.inbox b.other ++ [.opens kind])⟩ b := by
  have hgrants : ∀ c, (Label.acted b (some (.opens kind : Frame κ χ))).grants c = 0 := by
    simp [Label.grants, Frame.credits]
  refine ⟨⟨kind, [], by simp [hs _], ?_⟩, by simp [hs _], by simp [hs _], by simp [hnone, hgrants]⟩
  simpa [hnone, hgrants] using opening_fresh kind

lemma Pending.acts (h : Pending granted s o) (hacts : Acts cap valid (s.ends b) f x)
    (hopens : ∀ kind, f ≠ some (.opens kind))
    (hcap : ∀ c, granted c + (Label.acted b f).grants c ≤ cap) :
    Pending (fun c => granted c + (Label.acted b f).grants c)
      ⟨update s.ends b x, update s.inbox b.other (s.inbox b.other ++ f.toList)⟩ o := by
  obtain ⟨⟨kind, rest, hinbox, hopening⟩, hsilent, hunaware, hungranted⟩ := h
  rcases b.eq_or_eq_other o with rfl | rfl
  · -- the opener acts
    have hcapb := hcap b
    rw [grants_acted] at hcapb
    refine ⟨⟨kind, rest ++ f.toList, by simp [hinbox], ?_⟩, by simpa using hsilent,
      by simpa using hunaware, by simp [hungranted, grants_other]⟩
    simp only [update_self, grants_acted]
    exact hopening.acts hacts hopens hcapb
  · -- the other end has nothing to act on
    rw [hunaware] at hacts
    cases hacts with
    | stays =>
      exact ⟨⟨kind, rest, by simp [hinbox], by simpa [Label.grants] using hopening⟩,
        by simp [hsilent], by simp, by simp [Label.grants, hungranted]⟩
    | @opens kind => exact absurd rfl (hopens kind)

lemma Pending.takes (h : Pending granted s o) (hinbox : s.inbox b = g :: rest)
    (htakes : Takes cap valid (s.ends b) g x) :
    Settled valid granted ⟨update s.ends b x, update s.inbox b rest⟩ := by
  obtain ⟨⟨kind, rest', hopen, hopening⟩, hsilent, hunaware, hungranted⟩ := h
  rcases b.eq_or_eq_other o with rfl | rfl
  · rw [hsilent] at hinbox
    contradiction
  · rw [hopen] at hinbox
    cases hinbox
    constructor
    · intro c kind'
      rcases c.eq_or_eq_other o with rfl | rfl
      · simp [hsilent]
      · simpa using fun hmem => (hopening.plain _ hmem).1 kind' rfl
    · intro c r hr hropen
      rcases c.eq_or_eq_other o with rfl | rfl
      · -- the opener receives
        simp only [update_of_ne c.ne_other, update_self, hsilent] at hr ⊢
        rw [hr] at hopening
        have hlaw : Law valid none [] _ _ r := hopening.law hropen
        obtain ⟨hexpected, hcredits, -⟩ := hopening.owed r rfl hropen
        rw [hunaware] at htakes
        cases htakes with
        | opens =>
          rw [← (hopening.unused r rfl).1]
          exact hlaw.sender_opens rfl hexpected hcredits
        | refusesOpen | ignores => exact hlaw
      · -- the other end receives: it took the opening
        simp only [update_self, Side.other_other, update_of_ne o.ne_other,
          hsilent, hungranted] at hr ⊢
        subst hr
        rw [hunaware] at htakes
        cases htakes with
        | opens => exact hopening.law_other

end

section

variable {ε : Type} (rd : ε → Label κ χ)

/-- How often a history opens the stream. -/
def opened (h : List ε) : Nat := h.countP fun e => (rd e).opens

/-- What the end `b` has granted in a history. -/
def granted (b : Side) (h : List ε) : Nat := (h.map fun e => (rd e).grants b).sum

/-- A step of a run whose labels `rd` reads. -/
def RunStep (cap : Nat) (valid : κ → χ → Bool) (_ : List ε) (s : State κ χ) (e : ε)
    (s' : State κ χ) : Prop := Step cap valid s (rd e) s'

/-- How far a stream that is opened at most once has come. -/
inductive Phase (valid : κ → χ → Bool) (h : List ε) (s : State κ χ) : Prop
  | unopened (hopened : opened rd h = 0) (hgranted : ∀ b, granted rd b h = 0) (hs : s.init)
  | pending (hopened : opened rd h = 1) (o : Side) (hs : Pending (granted rd · h) s o)
  | settled (hopened : opened rd h = 1) (hs : Settled valid (granted rd · h) s)

variable {rd}

lemma opened_snoc (h : List ε) (e : ε) :
    opened rd (h ++ [e]) = opened rd h + (rd e).opens.toNat := by
  unfold opened
  rw [countP_append, countP_singleton]
  cases (rd e).opens <;> rfl

lemma granted_snoc (b : Side) (h : List ε) :
    granted rd b (h ++ [e]) = granted rd b h + (rd e).grants b := by
  simp [granted]

lemma Phase.step (hphase : Phase rd valid h s) (hstep : Step cap valid s (rd e) s')
    (honce : opened rd (h ++ [e]) ≤ 1) (hcap : ∀ b, granted rd b (h ++ [e]) ≤ cap) :
    Phase rd valid (h ++ [e]) s' := by
  simp only [granted_snoc] at hcap
  rw [opened_snoc] at honce
  generalize hlabel : rd e = label at hstep honce hcap
  have hgranted : (granted rd · (h ++ [e])) = fun b => granted rd b h + label.grants b := by
    funext b
    rw [granted_snoc, hlabel]
  have hopened : opened rd (h ++ [e]) = opened rd h + label.opens.toNat := by
    rw [opened_snoc, hlabel]
  cases hstep with
  | @acts b f x hacts =>
    -- what was opened is not opened again
    have hagain : opened rd h = 1 → opened rd (h ++ [e]) = 1 ∧ ∀ kind, f ≠ some (.opens kind) := by
      intro hone
      rw [hone] at honce hopened
      refine ⟨by omega, ?_⟩
      rintro kind rfl
      contradiction
    cases hphase with
    | unopened hzero hnone hs =>
      rw [(hs b).1] at hacts
      cases hacts with
      | stays =>
        refine .unopened (by rw [hopened, hzero]; rfl) (fun c => ?_) fun c => ?_
        · rw [granted_snoc, hlabel, hnone c]
          rfl
        · rcases c.eq_or_eq_other b with rfl | rfl <;> simp [hs _]
      | opens =>
        refine .pending (by rw [hopened, hzero]; rfl) b ?_
        rw [hgranted]
        exact .start hs hnone
    | pending hone o hs =>
      obtain ⟨hsame, hne⟩ := hagain hone
      refine .pending hsame o ?_
      rw [hgranted]
      exact hs.acts hacts hne hcap
    | settled hone hs =>
      obtain ⟨hsame, hne⟩ := hagain hone
      refine .settled hsame ?_
      rw [hgranted]
      exact hs.acts hacts hne hcap
  | @takes b f rest x hinbox htakes =>
    have hgranted' : (granted rd · (h ++ [e])) = (granted rd · h) := hgranted
    cases hphase with
    | unopened hzero hnone hs =>
      rw [(hs b).2] at hinbox
      contradiction
    | pending hone o hs =>
      refine .settled (by rw [hopened, hone]; rfl) ?_
      rw [hgranted']
      exact hs.takes hinbox htakes
    | settled hone hs =>
      refine .settled (by rw [hopened, hone]; rfl) ?_
      rw [hgranted']
      exact hs.takes hinbox htakes hcap

lemma phase_of_run (run : Trace.Run State.init (RunStep rd cap valid) h s)
    (honce : opened rd h ≤ 1) (hcap : ∀ b, granted rd b h ≤ cap) : Phase rd valid h s := by
  revert honce hcap
  apply run.invariant
  · intro s hs _ _
    exact .unopened rfl (fun _ => rfl) hs
  · intro h s e s' _ ih hstep honce hcap
    refine (ih ?_ fun b => ?_).step hstep honce hcap
    · rw [opened_snoc] at honce
      omega
    · have hb := hcap b
      rw [granted_snoc] at hb
      omega

/-- Over every run that opens the stream at most once and grants no more than
`cap`, the law holds for an end that has the stream open; while the opening
is under way to the other end, all credit is as well. -/
lemma law_of_run (run : Trace.Run State.init (RunStep rd cap valid) h s) (honce : opened rd h ≤ 1)
    (hcap : ∀ b, granted rd b h ≤ cap) (hr : s.ends b = some r) (hopen : r.isOpen = true) :
    Law valid (s.ends b.other) (s.inbox b) (s.inbox b.other) (granted rd b h) r ∧
    ∀ kind, .opens kind ∈ s.inbox b.other → s.ends b.other = none ∧ r.expected = 0 ∧
      s.inbox b = [] ∧ r.recvCredit = credits (s.inbox b.other) := by
  cases phase_of_run run honce hcap with
  | unopened _ _ hs =>
    rw [(hs b).1] at hr
    contradiction
  | pending _ o hs =>
    obtain ⟨⟨kind, rest, hinbox, hopening⟩, hsilent, hunaware, -⟩ := hs
    rcases b.eq_or_eq_other o with rfl | rfl
    · rw [hr] at hopening
      have hlaw : Law valid none [] rest _ r := hopening.law hopen
      obtain ⟨hexpected, hcredits, -⟩ := hopening.owed r rfl hopen
      have hsame : credits (Frame.opens kind :: rest) = credits rest := by
        rw [credits_cons]
        exact Nat.zero_add _
      rw [hunaware, hinbox, hsilent]
      refine ⟨⟨?_, by simp, by simp, rfl, by simp, by simp, hlaw.total⟩, fun _ _ =>
        ⟨rfl, hexpected, rfl, by rw [hsame, hcredits]⟩⟩
      rw [hsame]
      exact hlaw.credit_le
    · rw [hunaware] at hr
      contradiction
  | settled _ hs => exact ⟨hs.law b r hr hopen, fun kind hmem => absurd hmem (hs.opened _ kind)⟩

end

end CreditStream

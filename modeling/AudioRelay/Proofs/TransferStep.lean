import AudioRelay.Proofs.FrameBalance
import AudioRelay.Proofs.Interleaving
import AudioRelay.Proofs.Teardown

/-!
# The actions of a transfer

A transfer meets the lanes one after another, reads the gain, is told latencies and tells losses.
Each of these is read off a moment, the lanes as they were found. The rules say what the client
does next, and each of them is taken to the observations once.
-/

namespace AudioRelay

namespace Pipe

variable {p : Pipe}

/-- An open pipe takes as many of some frames as fit. -/
theorem write_of_open {frames : Nat} {data : List UInt8} (unshut : p.isShut = false)
    (hsize : 0 < p.frameSize) (hdata : data.length = frames * p.frameSize) :
    p.write data = (min frames p.vacant, p.push (min frames p.vacant) data) := by
  have hframes : p.framesIn data.length = frames := by
    rw [framesIn, hdata, Nat.mul_div_cancel _ hsize]
  simp only [write, unshut, hframes, Bool.false_eq_true, if_false]

/-- An open pipe gives as many of some frames as are there. -/
theorem read_of_open (unshut : p.isShut = false) (hsize : 0 < p.frameSize) (frames : Nat) :
    p.read (frames * p.frameSize) = p.pop (min frames p.available) := by
  have hframes : p.framesIn (frames * p.frameSize) = frames := Nat.mul_div_cancel _ hsize
  simp only [read, isSealed, unshut, hframes, Bool.false_and, Bool.false_eq_true, if_false]

end Pipe

namespace Event

/-- Whether frames of a transfer were lost. -/
def isLoss : Event → Bool
  | framesDropped _ _ => true
  | silenceInserted _ => true
  | _ => false

end Event

namespace Lane

/-- The frames that a transfer finds room for in the pipe, or finds there. -/
def offer (d : Direction) (lane : Lane) : Nat :=
  match d with
  | .output => lane.pipe.vacant
  | .input => lane.pipe.available

/-- What a lane is after a transfer of some frames: playback appends those that fit, capture takes
out those that are there. -/
def exchange (d : Direction) (frames : Nat) (bytes : List UInt8) (lane : Lane) : Lane :=
  match d with
  | .output => { lane with pipe := lane.pipe.push (min frames lane.pipe.vacant) bytes }
  | .input => { lane with pipe := (lane.pipe.pop (min frames lane.pipe.available)).2 }

/-- What a capture transfer of some frames puts into its buffer: the frames that are there, and
silence. -/
def fill (frames : Nat) (bytes : List UInt8) (lane : Lane) : List UInt8 :=
  (lane.pipe.pop (min frames lane.pipe.available)).1 ++
    List.replicate (bytes.length - (lane.pipe.pop (min frames lane.pipe.available)).1.length) 0

/-- What is told of the frames of a transfer that the lane has nothing to offer for. -/
def loss (d : Direction) (frames : Nat) (lane : Lane) : Event :=
  match d with
  | .output => .framesDropped lane.id (frames - lane.offer .output)
  | .input => .silenceInserted (frames - lane.offer .input)

/-- What is told of a meeting, if there are such frames. -/
def loss? (d : Direction) (frames : Nat) (lane : Lane) : Option Event :=
  if lane.offer d < frames then some (lane.loss d frames) else none

theorem loss?_output {frames : Nat} {lane : Lane} (h : lane.pipe.vacant < frames) :
    lane.loss? .output frames = some (.framesDropped lane.id (frames - lane.pipe.vacant)) :=
  if_pos h

theorem loss?_input {frames : Nat} {lane : Lane} (h : lane.pipe.available < frames) :
    lane.loss? .input frames = some (.silenceInserted (frames - lane.pipe.available)) :=
  if_pos h

theorem loss?_eq_none {d : Direction} {frames : Nat} {lane : Lane} (h : frames ≤ lane.offer d) :
    lane.loss? d frames = none :=
  if_neg (Nat.not_lt.mpr h)

end Lane

namespace Moment

/-- The lane whose pipe a transfer meets, as it is found. -/
def met? (m : Moment) : Option Lane :=
  match m.action, m.engine.client with
  | .client .tick, .sending i _ => m.engine.lanes[i]?
  | .client .tick, .receiving _ => m.engine.lanes[0]?
  | _, _ => none

/-- The latency that a transfer is told, after the device that it is of. -/
def latency? (m : Moment) : Option (Nat × Nat) :=
  match m.action, m.engine.client with
  | .client (.latency ms), .askingLatency i _ =>
    m.engine.lanes[i]?.map fun lane => (lane.device, ms)
  | _, _ => none

end Moment

/-- The lanes that a transfer met. -/
def meetings (later : List Moment) : List Lane := later.filterMap Moment.met?

/-- The levels that a transfer read. -/
def gains (later : List Moment) : List Single := later.filterMap Moment.gain?

/-- The devices that a transfer asked for their latencies, with what they told. -/
def latencies (later : List Moment) : List (Nat × Nat) := later.filterMap Moment.latency?

/-- The greatest of some latencies; none are not worth waiting for. -/
def greatest (ms : List Nat) : Nat := ms.foldl max 0

/-- The losses that the listener was told of, as a journal records them. -/
def lossesTold (later : List Moment) : List (String × Event) :=
  ((tellings later).map Telling.entry).filter fun entry => entry.2.isLoss

/-- The losses of a transfer with the lanes that it met. -/
def lossesMet (d : Direction) (frames : Nat) (later : List Moment) : List Event :=
  (meetings later).filterMap (Lane.loss? d frames)

namespace Counters

@[simp] theorem ofEvents_singleton (event : Event) : ofEvents [event] = ofEvent event :=
  add_zero _

end Counters

theorem meetings_snoc (later : List Moment) (m : Moment) :
    meetings (later ++ [m]) = meetings later ++ m.met?.toList := by
  unfold meetings
  rw [List.filterMap_append]
  cases hm : m.met? <;> simp [hm]

theorem gains_snoc (later : List Moment) (m : Moment) :
    gains (later ++ [m]) = gains later ++ m.gain?.toList := by
  unfold gains
  rw [List.filterMap_append]
  cases hm : m.gain? <;> simp [hm]

theorem latencies_snoc (later : List Moment) (m : Moment) :
    latencies (later ++ [m]) = latencies later ++ m.latency?.toList := by
  unfold latencies
  rw [List.filterMap_append]
  cases hm : m.latency? <;> simp [hm]

theorem lossesTold_singleton (m : Moment) :
    lossesTold [m] = (m.telling?.toList.map Telling.entry).filter fun entry => entry.2.isLoss := by
  rw [lossesTold, tellings_cons]
  exact congrArg _ (congrArg _ (List.append_nil _))

theorem lossesMet_singleton (d : Direction) (frames : Nat) (m : Moment) :
    lossesMet d frames [m] = (m.met?.bind (Lane.loss? d frames)).toList := by
  rw [lossesMet, ← List.nil_append [m], meetings_snoc]
  cases m.met? with
  | none => rfl
  | some lane => cases h : lane.loss? d frames <;> simp [meetings, h]

theorem lossesTold_append (later more : List Moment) :
    lossesTold (later ++ more) = lossesTold later ++ lossesTold more := by
  rw [lossesTold, tellings_append, List.map_append, List.filter_append]
  rfl

theorem lossesMet_append (d : Direction) (frames : Nat) (later more : List Moment) :
    lossesMet d frames (later ++ more) = lossesMet d frames later ++ lossesMet d frames more := by
  rw [lossesMet, meetings, List.filterMap_append, List.filterMap_append]
  rfl

/-- The frames lost with some lanes are those that the lanes had nothing to offer for. -/
theorem lostFrames_losses (d : Direction) (frames : Nat) (lanes : List Lane) :
    lostFrames d (lanes.filterMap (Lane.loss? d frames)) =
      (lanes.map fun lane => frames - lane.offer d).sum := by
  induction lanes with
  | nil => rfl
  | cons lane rest ih =>
    rw [List.map_cons, List.sum_cons, ← ih]
    by_cases h : lane.offer d < frames
    · have hsome : lane.loss? d frames = some (lane.loss d frames) := if_pos h
      rw [List.filterMap_cons_some hsome]
      cases d <;> rfl
    · have hnone : frames - lane.offer d = 0 := by omega
      rw [List.filterMap_cons_none (Lane.loss?_eq_none (Nat.not_lt.mp h)), hnone, Nat.zero_add]

/-- A transfer loses frames in the way of its own direction. -/
theorem lostFrames_losses_of_ne {d d' : Direction} (hd : d' ≠ d) (frames : Nat)
    (lanes : List Lane) : lostFrames d' (lanes.filterMap (Lane.loss? d frames)) = 0 := by
  apply List.sum_eq_zero
  intro n hn
  obtain ⟨event, hevent, rfl⟩ := List.mem_map.mp hn
  obtain ⟨lane, -, hlane⟩ := List.mem_filterMap.mp hevent
  unfold Lane.loss? at hlane
  split at hlane
  · cases hlane
    cases d <;> cases d' <;> first | rfl | contradiction
  · contradiction

namespace Passage

/-- What a transfer of the first `frames` frames of a buffer carries after some moments: playback
has put the levels that it read on the bytes, capture has filled them from the lanes that it
met. -/
def after (c : StreamContext) (buffer : List UInt8) (frames : Nat) (later : List Moment) :
    Passage where
  frames := frames
  moved := match c.direction with
    | .output => (gains later).foldl (fun bytes level => Gain.apply c.format c.channels level bytes)
        (buffer.take (frames * c.frameSize))
    | .input => (meetings later).foldl (fun bytes lane => lane.fill frames bytes)
        (buffer.take (frames * c.frameSize))
  tail := buffer.drop (frames * c.frameSize)
  latencyMs := greatest ((latencies later).map (·.2))

/-- What a moment makes of what a transfer carries. -/
def advance (c : StreamContext) (m : Moment) (p : Passage) : Passage :=
  { p with
    moved := match c.direction with
      | .output => m.gain?.elim p.moved fun level => Gain.apply c.format c.channels level p.moved
      | .input => m.met?.elim p.moved fun lane => lane.fill p.frames p.moved
    latencyMs := m.latency?.elim p.latencyMs fun told => max p.latencyMs told.2 }

theorem after_snoc (c : StreamContext) (buffer : List UInt8) (frames : Nat) (later : List Moment)
    (m : Moment) :
    after c buffer frames (later ++ [m]) = (after c buffer frames later).advance c m := by
  unfold after advance greatest
  rw [gains_snoc, meetings_snoc, latencies_snoc]
  congr 1
  · cases c.direction with
    | output => cases m.gain? <;> simp
    | input => cases m.met? <;> simp
  · cases m.latency? <;> simp

end Passage

namespace ClientState

/-- A transfer under way carries `p`, or it was answered with it. -/
def Bears (p : Passage) : ClientState → Prop
  | scaling q => q = p
  | sending _ q => q = p
  | countingDrop _ _ q => q = p
  | reportingDrop _ _ q => q = p
  | receiving q => q = p
  | countingSilence _ q => q = p
  | reportingSilence _ q => q = p
  | askingLatency _ q => q = p
  | countingTransfer q => q = p
  | answered a => a = .moved (p.moved ++ p.tail) p.frames (min p.latencyMs Engine.maxLatency)
  | _ => False

/-- How many lanes a transfer has met. -/
def met (lanes : Nat) : ClientState → Nat
  | scaling _ => 0
  | sending i _ => i
  | countingDrop i _ _ => i + 1
  | reportingDrop i _ _ => i + 1
  | receiving _ => 0
  | countingSilence _ _ => 1
  | reportingSilence _ _ => 1
  | askingLatency i _ => i + 1
  | _ => lanes

/-- How many latencies a transfer has been told. -/
def heard (lanes : Nat) : ClientState → Nat
  | scaling _ => 0
  | sending i _ => i
  | countingDrop i _ _ => i
  | reportingDrop i _ _ => i
  | receiving _ => 0
  | countingSilence _ _ => 0
  | reportingSilence _ _ => 0
  | askingLatency i _ => i
  | _ => lanes

/-- How many levels a transfer has read. -/
def scaled (d : Direction) : ClientState → Nat
  | scaling _ => 0
  | _ => match d with
    | .output => 1
    | .input => 0

/-- The losses that a transfer has met with and not yet counted. -/
def uncounted : ClientState → Counters
  | countingDrop _ missing _ => { Counters.zero with dropped := UInt64.ofNat missing }
  | countingSilence missing _ => { Counters.zero with silence := UInt64.ofNat missing }
  | _ => Counters.zero

/-- How many actions a transfer is away from its answer at most. -/
def ahead (lanes : Nat) : ClientState → Nat
  | receiving _ => 4 * lanes + 2
  | countingSilence _ _ => 4 * lanes + 1
  | reportingSilence _ _ => 4 * lanes
  | state => state.distance lanes

end ClientState

namespace Engine

/-- The loss that a transfer has met with and not yet told. -/
def pendingLoss (e : Engine) : List (String × Event) :=
  match e.client with
  | .countingDrop i missing _ =>
    e.lanes[i]?.toList.map fun lane => (clientName, .framesDropped lane.id missing)
  | .reportingDrop i missing _ =>
    e.lanes[i]?.toList.map fun lane => (clientName, .framesDropped lane.id missing)
  | .countingSilence missing _ => [(clientName, .silenceInserted missing)]
  | .reportingSilence missing _ => [(clientName, .silenceInserted missing)]
  | _ => []

/-- The actions of a transfer that carries `p`, as rules. -/
inductive TransferStep (p : Passage) (e : Engine) : ClientInput → Engine → Prop
  | scaled : e.context.direction = .output → e.client = .scaling p →
      TransferStep p e .tick { e with
        client := .sending 0
          { p with moved := Gain.apply e.context.format e.context.channels e.level p.moved } }
  | sent {i : Nat} {lane : Lane} : e.context.direction = .output → e.client = .sending i p →
      e.lanes[i]? = some lane → p.frames ≤ lane.pipe.vacant →
      TransferStep p e .tick { e with
        lanes := e.lanes.set i (lane.exchange .output p.frames p.moved)
        client := .askingLatency i p }
  | overran {i : Nat} {lane : Lane} : e.context.direction = .output → e.client = .sending i p →
      e.lanes[i]? = some lane → lane.pipe.vacant < p.frames →
      TransferStep p e .tick { e with
        lanes := e.lanes.set i (lane.exchange .output p.frames p.moved)
        client := .countingDrop i (p.frames - lane.pipe.vacant) p }
  | allSent : e.context.direction = .output → e.client = .sending e.lanes.length p →
      TransferStep p e .tick { e with client := .countingTransfer p }
  | dropCounted {i missing : Nat} {lane : Lane} : e.context.direction = .output →
      e.client = .countingDrop i missing p → e.lanes[i]? = some lane →
      TransferStep p e .tick { e with
        counters := { e.counters with dropped := e.counters.dropped + UInt64.ofNat missing }
        client := .reportingDrop i missing p }
  | dropReported {i missing : Nat} {lane : Lane} : e.context.direction = .output →
      e.client = .reportingDrop i missing p → e.lanes[i]? = some lane →
      TransferStep p e .tick { e with
        client := .askingLatency i p
        journal := e.told clientName (.framesDropped lane.id missing) }
  | heard {i ms : Nat} {lane : Lane} : e.context.direction = .output →
      e.client = .askingLatency i p → e.lanes[i]? = some lane →
      TransferStep p e (.latency ms) { e with
        client := .sending (i + 1) { p with latencyMs := max p.latencyMs ms } }
  | received {lane : Lane} : e.context.direction = .input → e.client = .receiving p →
      e.lanes = [lane] → p.frames ≤ lane.pipe.available →
      TransferStep p e .tick { e with
        lanes := [lane.exchange .input p.frames p.moved]
        client := .askingLatency 0 { p with moved := lane.fill p.frames p.moved } }
  | ranShort {lane : Lane} : e.context.direction = .input → e.client = .receiving p →
      e.lanes = [lane] → lane.pipe.available < p.frames →
      TransferStep p e .tick { e with
        lanes := [lane.exchange .input p.frames p.moved]
        client := .countingSilence (p.frames - lane.pipe.available)
          { p with moved := lane.fill p.frames p.moved } }
  | silenceCounted {missing : Nat} : e.context.direction = .input →
      e.client = .countingSilence missing p →
      TransferStep p e .tick { e with
        counters := { e.counters with silence := e.counters.silence + UInt64.ofNat missing }
        client := .reportingSilence missing p }
  | silenceReported {missing : Nat} : e.context.direction = .input →
      e.client = .reportingSilence missing p → 0 < e.lanes.length →
      TransferStep p e .tick { e with
        client := .askingLatency 0 p
        journal := e.told clientName (.silenceInserted missing) }
  | heardOne {ms : Nat} {lane : Lane} : e.context.direction = .input →
      e.client = .askingLatency 0 p → e.lanes = [lane] →
      TransferStep p e (.latency ms) { e with
        client := .countingTransfer { p with latencyMs := max p.latencyMs ms } }
  | finished : e.client = .countingTransfer p →
      TransferStep p e .tick ({ e with
        counters := { e.counters with transfers := e.counters.transfers + 1 } }.answer
          (.moved (p.moved ++ p.tail) p.frames (min p.latencyMs maxLatency)))

/-- What a transfer relies on: a capture stream has one lane, and the pipes are open and of the
stream's frames. -/
structure Ready (e : Engine) : Prop where
  single : e.context.direction = .input → e.lanes.length = 1
  frameSize : 0 < e.context.frameSize
  unshut (lane : Lane) : lane ∈ e.lanes → lane.pipe.isShut = false
  sized (lane : Lane) : lane ∈ e.lanes → lane.pipe.frameSize = e.context.frameSize

variable {e e' : Engine} {p : Passage}

/-- Every action of the client in a transfer follows one of the rules. -/
theorem transferStep {asked : Option Call} {gain : Option Single} {input : ClientInput}
    (bears : e.client.Bears p) (fits : e.client.Fits e.context.direction e.lanes.length)
    (carries : e.client.Carries e.context asked gain) (ready : e.Ready)
    (hs : ClientStep e input e') : e.TransferStep p input e' := by
  cases hs with
  | scaled hc =>
    rw [hc] at bears fits
    obtain rfl := bears
    exact .scaled fits hc
  | @sent i q lane frames pipe hc hl hw =>
    rw [hc] at bears fits carries
    obtain rfl := bears
    have hmem := List.mem_of_getElem? hl
    have hsize := ready.sized lane hmem
    have hwrite := Pipe.write_of_open (ready.unshut lane hmem) (hsize ▸ ready.frameSize)
      (hsize ▸ carries.length_moved)
    rw [hw] at hwrite
    obtain ⟨rfl, rfl⟩ := Prod.mk.inj hwrite
    by_cases hroom : q.frames ≤ lane.pipe.vacant
    · rw [if_neg (by omega)]
      exact .sent fits.1 hc hl hroom
    · have hmissing : q.frames - min q.frames lane.pipe.vacant = q.frames - lane.pipe.vacant := by
        omega
      rw [if_pos (by omega), hmissing]
      exact .overran fits.1 hc hl (by omega)
  | @allSent i q hc hl =>
    rw [hc] at bears fits
    obtain rfl := bears
    rw [List.getElem?_eq_none_iff] at hl
    obtain rfl : i = e.lanes.length := Nat.le_antisymm fits.2 hl
    exact .allSent fits.1 hc
  | @dropCounted i missing q hc =>
    rw [hc] at bears fits
    obtain rfl := bears
    exact .dropCounted fits.1 hc (List.getElem?_eq_getElem fits.2)
  | @dropReported i missing q lane hc hl =>
    rw [hc] at bears fits
    obtain rfl := bears
    exact .dropReported fits.1 hc hl
  | @received q lane rest bytes pipe frames q' hc hl hr hf hq =>
    rw [hc] at bears fits carries
    obtain rfl := bears
    have hone := ready.single fits
    rw [hl, List.length_cons, Nat.add_eq_right, List.length_eq_zero_iff] at hone
    rw [hone] at hl ⊢
    have hmem : lane ∈ e.lanes := hl ▸ List.mem_singleton.mpr rfl
    have hsize := ready.sized lane hmem
    have hread := Pipe.read_of_open (ready.unshut lane hmem) (hsize ▸ ready.frameSize) q.frames
    rw [hsize, ← carries.length_moved, hr] at hread
    obtain rfl : bytes = (lane.pipe.pop (min q.frames lane.pipe.available)).1 :=
      congrArg Prod.fst hread
    obtain rfl : pipe = (lane.pipe.pop (min q.frames lane.pipe.available)).2 :=
      congrArg Prod.snd hread
    have hgiven : frames = min q.frames lane.pipe.available := by
      rw [hf, Pipe.length_pop_of_le_available (Nat.min_le_right _ _), hsize,
        Nat.mul_div_cancel _ ready.frameSize]
    rw [hq, hgiven]
    by_cases hstock : q.frames ≤ lane.pipe.available
    · rw [if_neg (by omega)]
      exact .received fits hc hl hstock
    · have hmissing : q.frames - min q.frames lane.pipe.available =
          q.frames - lane.pipe.available := by omega
      rw [if_pos (by omega), hmissing]
      exact .ranShort fits hc hl (by omega)
  | @silenceCounted missing q hc =>
    rw [hc] at bears fits
    obtain rfl := bears
    exact .silenceCounted fits.1 hc
  | @silenceReported missing q hc =>
    rw [hc] at bears fits
    obtain rfl := bears
    exact .silenceReported fits.1 hc fits.2
  | @latencyTold i ms q hc =>
    rw [hc] at bears fits
    obtain rfl := bears
    unfold afterLatency
    split
    · rename_i output
      exact .heard output hc (List.getElem?_eq_getElem fits.1)
    · rename_i input
      obtain rfl := fits.2 input
      obtain ⟨lane, hlane⟩ := List.length_eq_one_iff.mp (ready.single input)
      exact .heardOne input hc hlane
  | @transferred q hc =>
    rw [hc] at bears
    obtain rfl := bears
    exact .finished hc
  -- The other rules start outside of a transfer.
  | opened hc | refused hc | unserved hc | bound hc _ | spawned hc _ | spawnRefused hc _
  | staffed hc _ | enrolled hc | heralded hc _ | rebased hc | located hc | drained hc | halted hc
  | sealed hc | stopped hc _ | allStopped hc _ | joined hc _ _ | allJoined hc _ | released hc =>
    rw [hc] at bears
    exact bears.elim

namespace TransferStep

variable {input : ClientInput}

/-- What the transfer carries advances with the moment. -/
theorem bears (hs : e.TransferStep p input e') :
    e'.client.Bears (p.advance e.context ⟨e, .client input⟩) := by
  cases hs with
  | scaled output hc | sent output hc _ _ | overran output hc _ _ | allSent output hc
  | dropCounted output hc _ | dropReported output hc _ =>
    simp [ClientState.Bears, Passage.advance, Moment.gain?, Moment.latency?, output, hc]
  | heard output hc hl =>
    simp [ClientState.Bears, Passage.advance, Moment.gain?, Moment.latency?, output, hc, hl]
  | received input hc hl _ | ranShort input hc hl _ | heardOne input hc hl =>
    simp [ClientState.Bears, Passage.advance, Moment.met?, Moment.latency?, input, hc, hl]
  | silenceCounted input hc | silenceReported input hc _ =>
    simp [ClientState.Bears, Passage.advance, Moment.met?, Moment.latency?, input, hc]
  | finished hc =>
    simp only [answer, ClientState.Bears, Passage.advance, Moment.gain?, Moment.met?,
      Moment.latency?, hc]
    cases e.context.direction <;> rfl

/-- Only the lane that is met changes. -/
theorem lanes (hs : e.TransferStep p input e') :
    e'.lanes = (Moment.met? ⟨e, .client input⟩).elim e.lanes fun lane =>
      e.lanes.set (e.client.met e.lanes.length)
        (lane.exchange e.context.direction p.frames p.moved) := by
  cases hs with
  | sent output hc hl _ | overran output hc hl _ =>
    simp [Moment.met?, ClientState.met, output, hc, hl]
  | received input hc hl _ | ranShort input hc hl _ =>
    simp [Moment.met?, ClientState.met, input, hc, hl]
  | allSent output hc => simp [Moment.met?, hc]
  | scaled _ hc | dropCounted _ hc _ | dropReported _ hc _ | heard _ hc _ | silenceCounted _ hc
  | silenceReported _ hc _ | heardOne _ hc _ | finished hc =>
    simp [Moment.met?, answer, hc]

/-- Lanes are met in order. -/
theorem met (hs : e.TransferStep p input e') :
    e.lanes.take (e'.client.met e.lanes.length) =
      e.lanes.take (e.client.met e.lanes.length) ++
        (Moment.met? ⟨e, .client input⟩).toList := by
  cases hs with
  | sent output hc hl _ | overran output hc hl _ =>
    simp [Moment.met?, ClientState.met, hc, List.take_add_one]
  | received input hc hl _ | ranShort input hc hl _ =>
    simp [Moment.met?, ClientState.met, hc, hl]
  | heardOne input hc hl => simp [Moment.met?, ClientState.met, hc, hl]
  | scaled _ hc | allSent _ hc | dropCounted _ hc _ | dropReported _ hc _ | heard _ hc _
  | silenceCounted _ hc | silenceReported _ hc _ | finished hc =>
    simp [Moment.met?, ClientState.met, answer, hc]

/-- Devices are asked in order. -/
theorem heard_eq (hs : e.TransferStep p input e') :
    (e.lanes.map (·.device)).take (e'.client.heard e.lanes.length) =
      (e.lanes.map (·.device)).take (e.client.heard e.lanes.length) ++
        (Moment.latency? ⟨e, .client input⟩).toList.map (·.1) := by
  cases hs with
  | heard output hc hl => simp [Moment.latency?, ClientState.heard, hc, hl, List.take_add_one]
  | heardOne input hc hl => simp [Moment.latency?, ClientState.heard, hc, hl]
  | scaled _ hc | sent _ hc _ _ | overran _ hc _ _ | allSent _ hc | dropCounted _ hc _
  | dropReported _ hc _ | received _ hc _ _ | ranShort _ hc _ _ | silenceCounted _ hc
  | silenceReported _ hc _ | finished hc =>
    simp [Moment.latency?, ClientState.heard, answer, hc]

/-- Playback reads one level, capture none. -/
theorem scaled_eq (hs : e.TransferStep p input e') :
    e'.client.scaled e.context.direction = e.client.scaled e.context.direction +
      (Moment.gain? ⟨e, .client input⟩).toList.length := by
  cases hs with
  | scaled output hc => simp [Moment.gain?, ClientState.scaled, output, hc]
  | sent _ hc _ _ | overran _ hc _ _ | allSent _ hc | dropCounted _ hc _ | dropReported _ hc _
  | heard _ hc _ | received _ hc _ _ | ranShort _ hc _ _ | silenceCounted _ hc
  | silenceReported _ hc _ | heardOne _ hc _ | finished hc =>
    simp [Moment.gain?, ClientState.scaled, answer, hc]

/-- What is lost with a lane is told before the next one is met. -/
theorem told_eq (hs : e.TransferStep p input e') :
    lossesTold [⟨e, .client input⟩] ++ e'.pendingLoss =
      e.pendingLoss ++ (lossesMet e.context.direction p.frames [⟨e, .client input⟩]).map
        fun event => (clientName, event) := by
  rw [lossesTold_singleton, lossesMet_singleton]
  cases hs with
  | @sent i lane output hc hl hroom =>
    have hnone : lane.loss? .output p.frames = none := Lane.loss?_eq_none hroom
    simp [Moment.telling?, clientTelling?, pendingLoss, Moment.met?, output, hc, hl, hnone]
  | @overran i lane output hc hl hroom =>
    obtain ⟨hi, -⟩ := List.getElem?_eq_some_iff.mp hl
    simp [Moment.telling?, clientTelling?, pendingLoss, Moment.met?, Lane.exchange, output, hc, hl,
      Lane.loss?_output hroom, List.getElem?_set_self hi]
  | @received lane input hc hl hstock =>
    have hnone : lane.loss? .input p.frames = none := Lane.loss?_eq_none hstock
    simp [Moment.telling?, clientTelling?, pendingLoss, Moment.met?, input, hc, hl, hnone]
  | ranShort input hc hl hstock =>
    simp [Moment.telling?, clientTelling?, pendingLoss, Moment.met?, input, hc, hl,
      Lane.loss?_input hstock]
  | dropCounted _ hc hl | dropReported _ hc hl =>
    simp [Moment.telling?, clientTelling?, pendingLoss, Moment.met?, Telling.entry, Event.isLoss,
      hc, hl]
  | scaled _ hc | allSent _ hc | heard _ hc _ | silenceCounted _ hc | silenceReported _ hc _
  | heardOne _ hc _ | finished hc =>
    simp [Moment.telling?, clientTelling?, pendingLoss, Moment.met?, Telling.entry, Event.isLoss,
      answer, hc]

/-- What is lost with a lane is counted once, and the transfer is when it is answered. -/
theorem counted_eq (hs : e.TransferStep p input e') :
    (Moment.counts ⟨e, .client input⟩) + e'.client.uncounted = e.client.uncounted +
      Counters.ofEvents (lossesMet e.context.direction p.frames [⟨e, .client input⟩]) +
        Counters.ofTransfers e'.answer?.isSome.toNat := by
  rw [lossesMet_singleton]
  have unlost : Counters.ofEvents [] = Counters.zero := rfl
  have unanswered : Counters.ofTransfers 0 = Counters.zero := rfl
  cases hs with
  | @sent i lane output hc hl hroom =>
    have hnone : lane.loss? .output p.frames = none := Lane.loss?_eq_none hroom
    simp [Moment.counts, clientCounts, ClientState.uncounted, answer?, Moment.met?, output, hc, hl,
      hnone, unlost, unanswered]
  | overran output hc hl hroom =>
    simp [Moment.counts, clientCounts, ClientState.uncounted, answer?, Moment.met?,
      Counters.ofEvent, output, hc, hl, Lane.loss?_output hroom, unanswered]
  | @received lane input hc hl hstock =>
    have hnone : lane.loss? .input p.frames = none := Lane.loss?_eq_none hstock
    simp [Moment.counts, clientCounts, ClientState.uncounted, answer?, Moment.met?, input, hc, hl,
      hnone, unlost, unanswered]
  | ranShort input hc hl hstock =>
    simp [Moment.counts, clientCounts, ClientState.uncounted, answer?, Moment.met?,
      Counters.ofEvent, input, hc, hl, Lane.loss?_input hstock, unanswered]
  | scaled _ hc | allSent _ hc | dropCounted _ hc _ | dropReported _ hc _ | heard _ hc _
  | silenceCounted _ hc | silenceReported _ hc _ | heardOne _ hc _ =>
    simp [Moment.counts, clientCounts, ClientState.uncounted, answer?, Moment.met?, hc, unlost,
      unanswered]
  | finished hc =>
    simp [Moment.counts, clientCounts, ClientState.uncounted, answer?, Moment.met?,
      Counters.ofTransfers, answer, hc, unlost]

/-- Every action brings the answer nearer. -/
theorem nearer (hs : e.TransferStep p input e') :
    e'.client.ahead e.lanes.length < e.client.ahead e.lanes.length := by
  cases hs with
  | sent _ hc hl _ | overran _ hc hl _ | dropReported _ hc hl | heard _ hc hl =>
    have hi := (List.getElem?_eq_some_iff.mp hl).1
    simp only [ClientState.ahead, ClientState.distance, hc]
    omega
  | received _ hc hl _ | ranShort _ hc hl _ | heardOne _ hc hl =>
    simp only [ClientState.ahead, ClientState.distance, hc, hl, List.length_singleton]
    omega
  | silenceReported _ hc hlanes =>
    simp only [ClientState.ahead, ClientState.distance, hc]
    omega
  | allSent _ hc | scaled _ hc | dropCounted _ hc _ | silenceCounted _ hc | finished hc =>
    simp [ClientState.ahead, ClientState.distance, answer, hc]

/-- The lane that is met is the next one. -/
theorem met_next (hs : e.TransferStep p input e') {lane : Lane}
    (hl : (Moment.met? ⟨e, .client input⟩) = some lane) :
    e.lanes[e.client.met e.lanes.length]? = some lane := by
  cases hs with
  | sent _ hc _ _ | overran _ hc _ _ | received _ hc _ _ | ranShort _ hc _ _ =>
    simpa [Moment.met?, ClientState.met, hc] using hl
  | scaled _ hc | allSent _ hc | dropCounted _ hc _ | dropReported _ hc _ | heard _ hc _
  | silenceCounted _ hc | silenceReported _ hc _ | heardOne _ hc _ | finished hc =>
    simp [Moment.met?, hc] at hl

/-- A transfer that was answered does nothing more. -/
theorem busy (hs : e.TransferStep p input e') : e.answer?.isSome = false := by
  cases hs with
  | scaled _ hc | sent _ hc _ _ | overran _ hc _ _ | allSent _ hc | dropCounted _ hc _
  | dropReported _ hc _ | heard _ hc _ | received _ hc _ _ | ranShort _ hc _ _
  | silenceCounted _ hc | silenceReported _ hc _ | heardOne _ hc _ | finished hc =>
    rw [answer?, hc]
    rfl

/-- No lane changes its owner. -/
theorem owners (hs : e.TransferStep p input e') :
    e'.lanes.map Lane.owner = e.lanes.map Lane.owner := by
  rw [hs.lanes]
  cases hm : Moment.met? ⟨e, .client input⟩ with
  | none => rfl
  | some lane =>
    apply map_set_of_eq (hs.met_next hm)
    unfold Lane.exchange
    split <;> rfl

end TransferStep

end Engine

end AudioRelay

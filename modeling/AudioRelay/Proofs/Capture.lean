import AudioRelay.Proofs.DeviceCall

/-!
# Conservation of captured frames

What the device fills reaches the client in the same order. While a capture stream runs, the
filled bytes of a cycle are those that transfers returned, those in the pipe, and the part of
the worker's chunk that the pipe has not taken. A teardown may cut off the end; what the client
got is then the beginning of what the device filled.
-/

namespace AudioRelay

/-- The part of a worker's chunk that is not yet in the pipe. -/
def WorkerState.unsent : WorkerState → List UInt8
  | pumping rest => rest
  | offering rest _ => rest
  | _ => []

/-- What an offer left over is still with the worker. -/
theorem WorkerState.unsent_afterOffer (rest : List UInt8) : (afterOffer rest).unsent = rest := by
  unfold afterOffer
  split
  · rename_i hempty
    have hnil := List.isEmpty_iff.mp hempty
    exact hnil.symm
  · rfl

/-- Whether a worker is out of its loop. -/
def WorkerState.isOut : WorkerState → Bool
  | leaving => true
  | gone => true
  | _ => false

/-- The part of a lane's chunk that is not yet in its pipe. -/
def Lane.unsent (lane : Lane) : List UInt8 := lane.worker.elim [] WorkerState.unsent

namespace Station

/-- The bytes that were filled and not returned are in the pipe, with the worker, or lost at the
end by a worker that left its loop when the stream no longer ran. -/
structure Holds (plan : StreamPlan) (running : Bool) (rest : List UInt8) (s : Station) : Prop where
  width : s.pipe.frameSize = plan.frameSize
  unshut : running = true → s.pipe.isShut = false
  bytes : ∃ lost, rest = s.pipe.content ++ s.worker.elim [] WorkerState.unsent ++ lost ∧
    (lost ≠ [] → running = false ∧ ∃ w, s.worker = some w ∧ w.isOut = true)

variable {plan : StreamPlan} {running : Bool} {rest : List UInt8} {pipe : Pipe} {w : WorkerState}

/-- A worker in its loop has lost nothing. -/
theorem Holds.rest_eq (h : Holds plan running rest ⟨pipe, some w⟩) (loops : w.isOut = false) :
    rest = pipe.content ++ w.unsent := by
  obtain ⟨lost, hrest, hlost⟩ := h.bytes
  have hnil : lost = [] := by
    by_contra hne
    obtain ⟨-, x, hx, hout⟩ := hlost hne
    obtain rfl := Option.some.inj hx
    rw [loops] at hout
    contradiction
  rw [hrest, hnil, List.append_nil]
  rfl

/-- A worker that leaves its loop loses what it has not sent. -/
theorem Holds.leave (h : Holds plan running rest ⟨pipe, some w⟩) (loops : w.isOut = false)
    (still : w.unsent ≠ [] → running = false) :
    Holds plan running rest ⟨pipe, some .leaving⟩ where
  width := h.width
  unshut := h.unshut
  bytes := by
    refine ⟨w.unsent, ?_, ?_⟩
    · have hrest := h.rest_eq loops
      rw [hrest]
      exact congrArg (· ++ w.unsent) (List.append_nil _).symm
    · intro hne
      exact ⟨still hne, .leaving, rfl, rfl⟩

/-- A capture worker keeps what its device filled until the pipe takes it. -/
theorem Holds.move {id : DeviceId} {pipe' : Pipe} {w' : WorkerState} {input : WorkerInput}
    {note : Option Note} (h : Holds plan running rest ⟨pipe, some w⟩)
    (hm : w.Move plan running id pipe input w' pipe' note) (suits : w.Suits plan)
    (capture : plan.direction = .input) :
    Holds plan running (rest ++ (Deed.filled (w.deed? plan pipe input).toList).flatten)
      ⟨pipe', some w'⟩ := by
  -- A worker that stays in its loop and adds nothing to the pipe keeps all that it holds.
  have keep {w' : WorkerState} {more : List UInt8} (loops : w.isOut = false)
      (hmore : w.unsent ++ more = w'.unsent) :
      Holds plan running (rest ++ more) ⟨pipe, some w'⟩ := by
    refine ⟨h.width, h.unshut, [], ?_, by simp⟩
    have hrest := h.rest_eq loops
    rw [hrest, List.append_assoc, hmore, List.append_nil]
    rfl
  -- A worker that leaves its loop adds nothing either.
  have left (loops : w.isOut = false) (still : w.unsent ≠ [] → running = false) :
      Holds plan running (rest ++ []) ⟨pipe, some .leaving⟩ := by
    rw [List.append_nil]
    exact h.leave loops still
  cases hm with
  | entered hrun =>
    apply keep rfl
    unfold StreamPlan.firstMove
    rw [capture]
    rfl
  | halted hrun => exact left rfl fun _ => hrun
  | took hr hne =>
    have hplay : plan.direction = .output := suits
    rw [capture] at hplay
    contradiction
  | starved hr =>
    have hplay : plan.direction = .output := suits
    rw [capture] at hplay
    contradiction
  | filled =>
    apply keep rfl
    exact List.append_nil _
  | @pushed unsent frames pipe' hw hg =>
    have hwrite := pipe.content_write unsent
    have hwidth := pipe.write_frameSize unsent
    have hshut := pipe.write_isShut unsent
    rw [hw] at hwrite hwidth hshut
    refine ⟨hwidth.trans h.width, fun hrun => hshut.trans (h.unshut hrun), [], ?_, by simp⟩
    have hrest := h.rest_eq rfl
    have hsplit := List.take_append_drop (frames * pipe.frameSize) unsent
    dsimp only at hwrite ⊢
    rw [hrest, hwrite, Option.elim_some, WorkerState.unsent_afterOffer, List.append_nil]
    change pipe.content ++ unsent ++ [] = _
    rw [List.append_nil, List.append_assoc, hsplit]
  | abandoned hrun => exact left rfl fun _ => hrun
  | refused hshut =>
    have hstopped : running = false := by
      cases hrun : running with
      | false => rfl
      | true =>
        have hunshut := h.unshut hrun
        rw [hshut] at hunshut
        contradiction
    exact left rfl fun _ => hstopped
  | ended =>
    obtain ⟨lost, hrest, hlost⟩ := h.bytes
    refine ⟨h.width, h.unshut, lost, ?_, ?_⟩
    · rw [hrest]
      exact List.append_nil _
    · intro hne
      exact ⟨(hlost hne).1, .gone, rfl, rfl⟩
  | @retried transfer | @gaveUp transfer | @died transfer =>
    apply keep rfl
    cases transfer <;> exact List.append_nil _
  | rested | blamed | excused | counted | reported | wrote | woke
  | offered | admitted | parked | roused =>
    apply keep rfl
    exact List.append_nil _

/-- A lane that gets its worker holds what it held. -/
theorem Holds.staff {s : Station} (h : s.Holds plan running rest) :
    Station.Holds plan running rest ⟨s.pipe, some (s.worker.getD .looping)⟩ := by
  obtain ⟨width, unshut, lost, hrest, hlost⟩ := h
  cases hw : s.worker with
  | none =>
    have hnil : lost = [] := by
      by_contra hne
      obtain ⟨-, w, hsome, -⟩ := hlost hne
      rw [hw] at hsome
      contradiction
    rw [hw, hnil] at hrest
    exact ⟨width, unshut, [], hrest, by simp⟩
  | some w =>
    rw [hw] at hrest hlost
    exact ⟨width, unshut, lost, hrest, hlost⟩

/-- A lane of a stream that does not run may have its pipe shut. -/
theorem Holds.halt {s : Station} (h : s.Holds plan running rest) (pipe : Pipe)
    (content : pipe.content = s.pipe.content) (width : pipe.frameSize = s.pipe.frameSize) :
    Station.Holds plan false rest ⟨pipe, s.worker⟩ where
  width := width.trans h.width
  unshut := by simp
  bytes := by
    obtain ⟨lost, hrest, hlost⟩ := h.bytes
    rw [← content] at hrest
    exact ⟨lost, hrest, fun hne => ⟨rfl, (hlost hne).2⟩⟩

/-- What a read takes out of the pipe is held no longer. -/
theorem Holds.read {s : Station} (h : s.Holds plan running rest) (room : Nat) :
    ∃ rest', rest = (s.pipe.read room).1 ++ rest' ∧
      Station.Holds plan running rest' ⟨(s.pipe.read room).2, s.worker⟩ := by
  obtain ⟨width, unshut, lost, hrest, hlost⟩ := h
  have hsplit := s.pipe.read_append_content room
  have hshut := s.pipe.read_isShut room
  refine ⟨_, ?_, (s.pipe.read_frameSize room).trans width, ?_, lost, rfl, hlost⟩
  · rw [hrest, ← hsplit]
    simp only [List.append_assoc]
  · intro hrun
    exact hshut.trans (unshut hrun)

end Station

namespace View

/-- Of the bytes filled in a cycle those that no transfer returned are `rest`. -/
structure Collects (plan : StreamPlan) (rest : List UInt8) (v : View) (ds : List Deed) :
    Prop where
  order : (Deed.returned plan.frameSize ds).flatten ++ rest = (Deed.filled ds).flatten
  asked : ∀ frames bytes, v.pending = some ⟨frames, bytes, false⟩ →
    bytes.length = frames * plan.frameSize
  station : ∀ s, v.station = some s → s.Holds plan v.isRunning rest

variable {c : StreamContext} {plan : StreamPlan} {calls : List DeviceCall} {rest : List UInt8}
  {v v' : View} {ds more : List Deed}

/-- What leaves the pipe and the worker alone leaves all bytes where they are. -/
theorem Collects.quiet (h : v.Collects plan rest ds)
    (asked : ∀ frames bytes, v'.pending = some ⟨frames, bytes, false⟩ →
      bytes.length = frames * plan.frameSize)
    (station : ∀ s', v'.station = some s' → s'.Holds plan v'.isRunning rest)
    (receipts : Deed.receipts more = []) (filled : Deed.filled more = []) :
    v'.Collects plan rest (ds ++ more) where
  order := by
    have returned : Deed.returned plan.frameSize more = [] := by
      rw [Deed.returned, receipts, List.map_nil]
    rw [Deed.returned_append, returned, Deed.filled_append, filled, List.append_nil,
      List.append_nil]
    exact h.order
  asked := asked
  station := station

/-- A read gives back what it took from the pipe, and fills up with silence. -/
theorem returned_ofRead {frameSize frames : Nat} {bytes : List UInt8}
    (whole : frameSize ∣ bytes.length) (fits : bytes.length ≤ frames * frameSize) :
    Deed.returned frameSize [.ofRead frameSize frames (frames * frameSize) bytes] = [bytes] := by
  have hframes : bytes.length / frameSize * frameSize = bytes.length := Nat.div_mul_cancel whole
  have hlength : (bytes ++ List.replicate (frames * frameSize - bytes.length) (0 : UInt8)).length =
      frames * frameSize := by
    rw [List.length_append, List.length_replicate]
    omega
  have hreal : frames * frameSize - (frames - bytes.length / frameSize) * frameSize =
      bytes.length := by
    rw [Nat.sub_mul, hframes]
    omega
  have hone (buffer : List UInt8) (silent : Nat) :
      Deed.returned frameSize [.received buffer silent] =
        [buffer.take (buffer.length - silent * frameSize)] := rfl
  rw [Deed.ofRead, hone, hlength, hreal, List.take_left]

/-- A capture worker adds what its device filled and nothing else. -/
theorem Collects.work {s : Station} {w w' : WorkerState} {pipe : Pipe} {input : WorkerInput}
    {note : Option Note} (h : v.Collects plan rest ds) (capture : plan.direction = .input)
    (hst : v.station = some s) (hw : s.worker = some w) (suits : w.Suits plan)
    (hm : w.Move plan v.isRunning "" s.pipe input w' pipe note) :
    View.Collects plan (rest ++ (Deed.filled (w.deed? plan s.pipe input).toList).flatten)
      { v with station := some ⟨pipe, some w'⟩ } (ds ++ (w.deed? plan s.pipe input).toList) := by
  have holds : Station.Holds plan v.isRunning rest ⟨s.pipe, some w⟩ := by
    rw [← hw]
    exact h.station s hst
  have returned : Deed.returned plan.frameSize (w.deed? plan s.pipe input).toList = [] := by
    cases hd : w.deed? plan s.pipe input with
    | none => rfl
    | some d =>
      rcases WorkerState.deed?_cases hd with ⟨chunk, rfl⟩ | ⟨transfer, outcome, rfl⟩
      · rfl
      · rfl
  constructor
  case order =>
    rw [Deed.returned_append, Deed.filled_append, List.flatten_append, List.flatten_append,
      ← h.order, returned, List.flatten_nil, List.append_nil, List.append_assoc]
  case asked => exact h.asked
  case station =>
    rintro s' ⟨⟩
    exact holds.move hm suits capture

/-- A read returns to the client what it takes from the front of the pipe. -/
theorem Collects.read {s : Station} {frames : Nat} {bytes : List UInt8}
    (h : v.Collects plan rest ds) (hst : v.station = some s)
    (hp : v.pending = some ⟨frames, bytes, false⟩) :
    ∃ rest', View.Collects plan rest'
      { v with station := some ⟨(s.pipe.read bytes.length).2, s.worker⟩, pending := none }
      (ds ++ [.ofRead plan.frameSize frames bytes.length (s.pipe.read bytes.length).1]) := by
  have hroom := h.asked frames bytes hp
  have holds := h.station s hst
  have hle := s.pipe.length_read_le bytes.length
  have hwhole := s.pipe.frameSize_dvd_length_read bytes.length
  obtain ⟨rest', hrest, holds'⟩ := holds.read bytes.length
  rw [holds.width] at hwhole
  rw [hroom] at hle hwhole hrest holds' ⊢
  refine ⟨rest', ?_, by simp, ?_⟩
  · rw [Deed.returned_append, Deed.filled_append, returned_ofRead hwhole hle, List.flatten_append,
      List.flatten_append, ← h.order, hrest]
    simp [Deed.filled, Deed.attempts, Deed.ofRead]
  · rintro s' ⟨⟩
    exact holds'

/-- A change within a cycle keeps the account of a capture lane. -/
theorem Collects.change (h : v.Collects plan rest ds) (accounted : v.Accounted plan calls ds)
    (capture : plan.direction = .input) (direction : c.direction = .input)
    (size : c.frameSize = plan.frameSize) {d : Option Deed} (hc : v.Change c plan v' d) :
    ∃ rest', v'.Collects plan rest' (ds ++ d.toList) := by
  cases hc with
  | still => exact ⟨rest, h.quiet h.asked h.station rfl rfl⟩
  | asked _ henough =>
    refine ⟨rest, h.quiet ?_ h.station rfl rfl⟩
    rintro _ _ ⟨⟩
    rw [size] at henough ⊢
    exact List.length_take_of_le henough
  | scaled _ => exact ⟨rest, h.quiet (fun frames bytes hp => by simp at hp) h.station rfl rfl⟩
  | sent hd _ _ =>
    rw [direction] at hd
    contradiction
  | received _ hst hp =>
    rw [size]
    exact h.read hst hp
  | staffed =>
    refine ⟨rest, h.quiet h.asked ?_ rfl rfl⟩
    intro s' hs'
    obtain ⟨s, hs, rfl⟩ := Option.map_eq_some_iff.mp hs'
    exact (h.station s hs).staff
  | halted =>
    refine ⟨rest, h.quiet h.asked ?_ rfl rfl⟩
    intro s hs
    exact (h.station s hs).halt s.pipe rfl rfl
  | shut hrun =>
    refine ⟨rest, h.quiet h.asked ?_ rfl rfl⟩
    intro s' hs'
    obtain ⟨s, hs, rfl⟩ := Option.map_eq_some_iff.mp hs'
    rw [hrun]
    exact (h.station s hs).halt _ rfl rfl
  | released => exact ⟨rest, h.quiet h.asked (fun s' hs' => by contradiction) rfl rfl⟩
  | worked hst hw hm =>
    have suits := (accounted.served _ hst).suits _ hw
    exact ⟨_, h.work capture hst hw suits hm⟩

/-- No bytes are anywhere before a cycle or at its beginning. -/
theorem collects_nil (pending : v.pending = none)
    (station : ∀ s, v.station = some s → s = ⟨Pipe.empty plan.frames plan.frameSize, none⟩) :
    v.Collects plan [] [] where
  order := rfl
  asked := by simp [pending]
  station := by
    intro s hs
    rw [station s hs]
    exact ⟨rfl, fun _ => rfl, [], rfl, by simp⟩

/-- Whatever touches a capture lane, its calls account for its deeds and no byte goes missing. -/
theorem collects (c : StreamContext) (plan : StreamPlan) (v : View) (off : v.station = none)
    (idle : v.pending = none) (capture : plan.direction = .input)
    (direction : c.direction = .input) (size : c.frameSize = plan.frameSize) (ts : List Touch) :
    ∃ calls rest, (v.run c plan ts).Accounted plan calls (Deed.thisCycle (v.deeds c plan ts)) ∧
      (v.run c plan ts).Collects plan rest (Deed.thisCycle (v.deeds c plan ts)) := by
  refine cycle_induction (fun v ds => ∃ calls rest, v.Accounted plan calls ds ∧
    v.Collects plan rest ds) ?_ ?_ ?_ ts
  · exact ⟨[], [], accounted_nil (by simp [off]), collects_nil idle (by simp [off])⟩
  · intro v
    refine ⟨[], [], accounted_nil ?_, collects_nil rfl ?_⟩
    · rintro s ⟨⟩
      rfl
    · rintro s ⟨⟩
      rfl
  · rintro v v' d ds hc ⟨calls, rest, accounted, collects⟩
    obtain ⟨calls', accounted'⟩ := accounted.change hc
    obtain ⟨rest', collects'⟩ := collects.change accounted capture direction size hc
    exact ⟨calls', rest', accounted', collects'⟩

end View

/-- Without lanes and without anyone to open nothing is done. -/
theorem Engine.Sound.deed?_of_unserved {e : Engine} {opened : List (DeviceProfile × Nat)}
    (sound : e.Sound opened) (off : e.lanes = []) (unserved : e.candidates = []) (a : Action)
    (i : Nat) : (Moment.mk e a).deed? i = none := by
  have hst := sound.stage
  cases a with
  | worker j input =>
    simp only [Moment.deed?, off, List.getElem?_nil, Option.bind_none, ite_self]
  | client input =>
    cases input with
    | tick =>
      simp only [Moment.deed?, Engine.clientDeed?]
      cases hc : e.client with
      | opening todo ids =>
        cases todo with
        | nil =>
          rw [hc] at hst
          obtain ⟨-, -, hall, hids⟩ := hst
          rw [unserved, List.append_nil, List.map_eq_nil_iff] at hall
          rw [hall] at hids
          rw [hids]
          rfl
        | cons p rest => rfl
      | scaling p =>
        rw [hc] at hst
        exact absurd off hst.1.nonempty
      | sending j p => simp only [off, List.getElem?_nil, Option.map_none, ite_self]
      | receiving p => simp only [off, List.getElem?_nil, Option.map_none, ite_self]
      | _ => rfl
    | _ => rfl
  | _ => rfl

/-- A stream that no profile serves never does anything. -/
theorem Run.deeds_eq_nil {b : Blueprint} {h : List Moment} {e : Engine} (run : Run b h e)
    (unserved : b.candidates = []) (i : Nat) : deeds i h = [] ∧ e.lanes = [] := by
  have off {h : List Moment} {e : Engine} (run : Run b h e) : e.lanes = [] := by
    by_contra hne
    have hlength := run.sound.length_lanes hne
    rw [run.candidates_eq, unserved] at hlength
    exact hne (List.length_eq_zero_iff.mp hlength)
  refine ⟨?_, off run⟩
  induction run with
  | built _ => rfl
  | @snoc h e e' a run hs ih =>
    have hnone := run.sound.deed?_of_unserved (off run) (run.candidates_eq.trans unserved) a i
    rw [deeds_snoc, ih, hnone]
    rfl

/-- An answer to a transfer begins with the buffer that was made up last. -/
def Answer.Returns (last : Option (List UInt8 × Nat)) : Answer → Prop
  | moved out _ _ => ∃ buffer silent tail, last = some (buffer, silent) ∧ out = buffer ++ tail
  | _ => True

/-- The buffer that a capture transfer made up last is on its way to the client; the answer that
a teardown ends with is none to a transfer. -/
def ClientState.Returns (last : Option (List UInt8 × Nat)) : ClientState → Prop
  | countingSilence missing p => last = some (p.moved, missing)
  | reportingSilence missing p => last = some (p.moved, missing)
  | askingLatency _ p => ∃ silent, last = some (p.moved, silent)
  | countingTransfer p => ∃ silent, last = some (p.moved, silent)
  | answered a => a.Returns last
  | halting a => a.Returns none
  | sealing a => a.Returns none
  | stopping _ a => a.Returns none
  | joining _ a => a.Returns none
  | releasing a => a.Returns none
  | _ => True

/-- An answer that owes nothing to a buffer may be given at any time. -/
theorem Answer.Returns.of_none {a : Answer} (h : a.Returns none)
    (last : Option (List UInt8 × Nat)) : a.Returns last := by
  cases a with
  | moved out frames ms =>
    obtain ⟨_, _, _, hlast, -⟩ := h
    contradiction
  | _ => trivial

/-- The client of a capture stream passes on the buffer that it made up last. -/
theorem Engine.returns_client {e e' : Engine} {input : ClientInput} {h : List Moment}
    (hs : ClientStep e input e') (capture : e.context.direction = .input)
    (fits : e.client.Fits .input e.lanes.length)
    (returns : e.client.Returns (Deed.receipts (Deed.ofCycle 0 h)).getLast?) :
    e'.client.Returns (Deed.receipts (Deed.ofCycle 0 (h ++ [⟨e, .client input⟩]))).getLast? := by
  have same (hn : (Moment.mk e (.client input)).deed? 0 = none) :
      Deed.ofCycle 0 (h ++ [⟨e, .client input⟩]) = Deed.ofCycle 0 h := by
    rw [Deed.ofCycle_snoc, hn]
  cases hs with
  | @received p lane rest bytes pipe frames q hc hl hr hf hq =>
    have hdeed : (Moment.mk e (.client .tick)).deed? 0 =
        some (.received q.moved (p.frames - frames)) := by
      simp only [Moment.deed?, clientDeed?, hc, hl, List.getElem?_cons_zero, if_true,
        Option.map_some, hr, Deed.ofRead, hq, hf]
    have hcycle : Deed.ofCycle 0 (h ++ [⟨e, .client .tick⟩]) =
        Deed.ofCycle 0 h ++ [.received q.moved (p.frames - frames)] := by
      rw [Deed.ofCycle_snoc, hdeed]
      rfl
    have hlast :
        (Deed.receipts (Deed.ofCycle 0 h ++ [.received q.moved (p.frames - frames)])).getLast? =
          some (q.moved, p.frames - frames) := by
      rw [Deed.receipts_append]
      exact List.getLast?_concat
    rw [hcycle, hlast]
    dsimp only
    split
    · exact rfl
    · exact ⟨_, rfl⟩
  | @silenceCounted missing p hc =>
    rw [same (by simp only [Moment.deed?, clientDeed?, hc])]
    rw [hc] at returns
    exact returns
  | @silenceReported missing p hc =>
    rw [same (by simp only [Moment.deed?, clientDeed?, hc])]
    rw [hc] at returns
    exact ⟨missing, returns⟩
  | @latencyTold i ms p hc =>
    rw [same rfl]
    rw [hc] at returns
    simp only [afterLatency, capture]
    exact returns
  | @transferred p hc =>
    rw [same (by simp only [Moment.deed?, clientDeed?, hc])]
    rw [hc] at returns
    obtain ⟨silent, hlast⟩ := returns
    exact ⟨p.moved, silent, p.tail, hlast, rfl⟩
  | scaled hc =>
    rw [hc] at fits
    contradiction
  | sent hc _ _ | allSent hc _ | dropCounted hc | dropReported hc _ =>
    rw [hc] at fits
    have hplay := fits.1
    contradiction
  | located hc =>
    unfold locate
    split <;> trivial
  | sealed hc =>
    rw [hc] at returns
    unfold shutCapture
    split
    · exact returns
    · exact returns
  | released hc =>
    rw [hc] at returns
    exact Answer.Returns.of_none returns _
  | halted hc | stopped hc _ | allStopped hc _ | joined hc _ _ | allJoined hc _ =>
    rw [hc] at returns
    exact returns
  | opened hc | refused hc | unserved hc | bound hc _ | spawned hc _ | spawnRefused hc _
  | staffed hc _ | enrolled hc | heralded hc _ | rebased hc | drained hc => trivial

/-- What a capture transfer made up from the pipe is what the client gets. -/
theorem Run.returns {b : Blueprint} {h : List Moment} {e : Engine} (run : Run b h e)
    (capture : b.context.direction = .input) :
    e.client.Returns (Deed.receipts (Deed.ofCycle 0 h)).getLast? := by
  induction run with
  | built hb =>
    obtain ⟨pcm, -, rfl⟩ := Engine.build_eq_ok hb
    trivial
  | @snoc h e e' a run hs ih =>
    have fits := run.fits
    have hd : e.context.direction = .input := by rw [run.blueprint.1, capture]
    rw [hd] at fits
    cases a with
    | call c =>
      obtain ⟨-, rfl⟩ := Engine.step_call_eq_some hs
      cases c with
      | transfer buffer frames =>
        simp only [Engine.begin, Engine.beginTransfer, hd]
        split
        · trivial
        · split <;> trivial
      | negotiate | start | refine | drain | standby =>
        simp only [Engine.begin]
        split <;> trivial
      | setGain | pause | flush => trivial
    | client input => exact Engine.returns_client (Engine.clientStep_of_stepClient hs) hd fits ih
    | worker j input =>
      obtain ⟨_, _, _, _, _, counters, journal, rfl⟩ := Engine.stepWorker_eq_some hs
      have hreceipts : Deed.receipts (Deed.ofCycle 0 (h ++ [⟨e, .worker j input⟩])) =
          Deed.receipts (Deed.ofCycle 0 h) := by
        rw [Deed.ofCycle_snoc]
        cases hdeed : (Moment.mk e (.worker j input)).deed? 0 with
        | none => rfl
        | some d =>
          simp only [Moment.deed?, Option.ite_none_right_eq_some, Option.bind_eq_some_iff] at hdeed
          obtain ⟨-, lane, -, w, -, hw⟩ := hdeed
          rcases WorkerState.deed?_cases hw with ⟨chunk, rfl⟩ | ⟨transfer, outcome, rfl⟩
          · simp [Deed.receipts, Deed.isBound]
          · simp [Deed.receipts, Deed.isBound]
      rw [hreceipts]
      exact ih
    | adjust level =>
      cases hs
      rw [Deed.ofCycle_snoc]
      exact ih

/-- In every state of a capture stream that runs, the bytes that the device filled in this cycle
are those that transfers returned, those in the pipe and those that the worker has yet to send,
in this order. At any time, torn down or not, the returned bytes are the beginning of the filled
ones, what fills them are the calls that succeeded, and what a transfer made up from the pipe is
what its answer begins with. -/
theorem Run.capture_conserved {b : Blueprint} {h : List Moment} {e : Engine} (run : Run b h e)
    (capture : b.context.direction = .input) :
    (∀ lane, e.lanes[0]? = some lane → e.isRunning = true →
      (Deed.returned b.context.frameSize (Deed.ofCycle 0 h)).flatten ++ lane.pipe.content ++
        lane.unsent = (Deed.filled (Deed.ofCycle 0 h)).flatten) ∧
      (Deed.returned b.context.frameSize (Deed.ofCycle 0 h)).flatten <+:
        (Deed.filled (Deed.ofCycle 0 h)).flatten ∧
      (∃ calls : List DeviceCall,
        (∀ c ∈ calls, c.transfer = .read (b.context.frames * b.context.frameSize)) ∧
        Deed.attempts (Deed.ofCycle 0 h) = calls.flatMap (·.attempts) ∧
        DeviceCall.InTurn b.config.retryPolicy.spare calls ∧
        Deed.filled (Deed.ofCycle 0 h) = calls.filterMap (·.filled?)) ∧
      ∀ out frames ms, e.client = .answered (.moved out frames ms) →
        ∃ buffer silent tail, (Deed.receipts (Deed.ofCycle 0 h)).getLast? = some (buffer, silent) ∧
          out = buffer ++ tail := by
  have returns := run.returns capture
  have answers : ∀ out frames ms, e.client = .answered (.moved out frames ms) →
      ∃ buffer silent tail, (Deed.receipts (Deed.ofCycle 0 h)).getLast? = some (buffer, silent) ∧
        out = buffer ++ tail := by
    intro out frames ms hc
    rw [hc] at returns
    exact returns
  by_cases unserved : b.candidates = []
  · obtain ⟨hdeeds, hlanes⟩ := run.deeds_eq_nil unserved 0
    have hcycle : Deed.ofCycle 0 h = [] := by rw [Deed.ofCycle, hdeeds]; rfl
    rw [hcycle] at answers ⊢
    refine ⟨?_, List.prefix_rfl, ⟨[], by simp, rfl, by simp [DeviceCall.InTurn], rfl⟩, answers⟩
    intro lane hl
    rw [hlanes] at hl
    contradiction
  · obtain ⟨hview, hdeeds⟩ := run.view_eq (List.length_pos_iff.mpr unserved)
    obtain ⟨calls, rest, accounted, collects⟩ :=
      View.collects b.context b.plan (View.start b.gain) rfl rfl capture capture rfl (touches 0 h)
    rw [← hview, ← hdeeds, ← Deed.ofCycle] at accounted collects
    refine ⟨?_, ⟨rest, collects.order⟩,
      ⟨calls, ?_, accounted.logged.attempts, accounted.inTurn, ?_⟩, answers⟩
    · intro lane hl hrun
      obtain ⟨lost, hrest, hlost⟩ := (collects.station _ (Engine.station_view hl)).bytes
      have hnil : lost = [] := by
        by_contra hne
        have hstopped : e.isRunning = false := (hlost hne).1
        rw [hrun] at hstopped
        contradiction
      have horder := collects.order
      rw [hrest, hnil, List.append_nil, ← List.append_assoc] at horder
      exact horder
    · intro c hc
      have suits := accounted.logged.transfers c hc
      cases ht : c.transfer with
      | write chunk =>
        rw [ht, Transfer.Suits] at suits
        have hplay : b.context.direction = .output := suits
        rw [capture] at hplay
        contradiction
      | read length =>
        rw [ht] at suits
        rw [suits.2]
        rfl
    · rw [Deed.filled, accounted.logged.attempts]
      exact accounted.inTurn.filled

/-- A device fails once and then fills two chunks; a transfer got one frame of them, the pipe is
full and the last frame waits with the worker. -/
theorem Run.conserved_with_full_pipe :
    ∃ h e lane, Run (.small .input [.attached 0 0 .input]) h e ∧ e.lanes = [lane] ∧
      Deed.filled (Deed.ofCycle 0 h) = [[1, 2, 3, 4], [5, 6, 7, 8]] ∧
      Deed.returned 2 (Deed.ofCycle 0 h) = [[1, 2]] ∧ lane.unsent = [7, 8] ∧
      [1, 2] ++ lane.pipe.content ++ [7, 8] = [1, 2, 3, 4, 5, 6, 7, 8] := by
  have hfollow : ((Blueprint.small .input [.attached 0 0 .input]).follow
      [.call .start, .client (.opened (.ok 0)), .client .tick, .client (.spawned (.ok ())),
        .client .tick, .client .tick, .client .tick,
        .worker 0 .tick, .worker 0 (.settled (.failed (.transient "busy"))), .worker 0 .tick,
        .worker 0 (.settled (.done [1, 2, 3, 4])), .worker 0 .tick, .worker 0 .tick,
        .worker 0 .tick, .worker 0 .tick, .worker 0 (.settled (.done [5, 6, 7, 8])),
        .worker 0 .tick, .worker 0 .tick, .worker 0 .tick,
        .call (.transfer [0, 0] 1), .client .tick, .worker 0 .tick, .worker 0 .tick,
        .worker 0 .tick]).map (fun x => (x.2.lanes.map (·.unsent), x.2.isRunning,
          Deed.filled (Deed.ofCycle 0 x.1), Deed.returned 2 (Deed.ofCycle 0 x.1))) =
      some ([[7, 8]], true, [[1, 2, 3, 4], [5, 6, 7, 8]], [[1, 2]]) := by
    decide
  obtain ⟨⟨h, e⟩, hf, heq⟩ := Option.map_eq_some_iff.mp hfollow
  simp only [Prod.mk.injEq] at heq
  obtain ⟨hunsent, hrun, hfilled, hreturned⟩ := heq
  have hlength : e.lanes.length = 1 := by
    have hmapped := congrArg List.length hunsent
    rwa [List.length_map] at hmapped
  obtain ⟨lane, hlanes⟩ := List.length_eq_one_iff.mp hlength
  have hlast : lane.unsent = [7, 8] := by
    rw [hlanes] at hunsent
    exact (List.cons.inj hunsent).1
  obtain ⟨horder, -⟩ := Run.capture_conserved (Run.of_follow hf) rfl
  have hbytes := horder lane (by rw [hlanes]; rfl) hrun
  change (Deed.returned 2 (Deed.ofCycle 0 h)).flatten ++ _ ++ _ = _ at hbytes
  rw [hreturned, hfilled, hlast] at hbytes
  exact ⟨h, e, lane, Run.of_follow hf, hlanes, hfilled, hreturned, hlast, hbytes⟩

end AudioRelay

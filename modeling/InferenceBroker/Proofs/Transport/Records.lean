import Mathlib
import InferenceBroker.Proofs.Transport.Correlation
import InferenceBroker.Proofs.Transport.Framing

/-!
# What the server transport records

For reasoning only, the server transport logs what it did on each connection (`Served`): the
calls, the frames queued, the answers among them, and the end; a link keeps the bytes its dialer
wrote (`Link.wrote`) and the frames its acceptor wrote (`Link.written`). Here are the facts the
transport's invariant is built from: a frame read is what the stream's first bytes encode
(`Frame.read_ok`); what a dialer may do (`Link.Dialed`); how network operations change one
connection; and what one action of an accepted connection can do (`Network.serveStep_cases`).
-/

namespace InferenceBroker

namespace Bytes

theorem beBytes_beValue (bs : Bytes) : beBytes bs.length (beValue bs) = bs := by
  induction bs using List.reverseRecOn with
  | nil => rfl
  | append_singleton bs b ih =>
    have low : (beValue bs * 256 + b.toNat) % 256 = b.toNat := by have := b.toNat_lt; omega
    have high : (beValue bs * 256 + b.toNat) / 256 = beValue bs := by have := b.toNat_lt; omega
    rw [List.length_append, List.length_singleton, beBytes, beValue_append_byte, high, ih, low,
      UInt8.ofNat_toNat]

theorem beValue_lt (bs : Bytes) : beValue bs < 256 ^ bs.length := by
  have back := beValue_beBytes bs.length (beValue bs)
  rw [beBytes_beValue] at back
  rw [back]
  exact Nat.mod_lt _ (Nat.pow_pos (by decide))
end Bytes

namespace Frame

theorem header_fields (header : Bytes) :
    header = header.take 8 ++ (header.drop 8).take 8 ++ header.drop 16 := by
  have twice : header.drop 16 = (header.drop 8).drop 8 := by rw [List.drop_drop]
  rw [List.append_assoc, twice, List.take_append_drop, List.take_append_drop]

/-- The stream's first bytes encode it, and it carries at most 256 MiB. -/
theorem read_ok {bs rest : Bytes} {f : Frame} (h : read bs = .ok (f, rest)) :
    bs = f.encode ++ rest ∧ f.data.length ≤ maxData := by
  unfold read at h
  cases taken : takeFull 20 bs with
  | error e => simp [taken, bind, Except.bind] at h
  | ok p =>
    obtain ⟨header, after⟩ := p
    obtain ⟨sized, split⟩ := takeFull_ok taken
    have width : ∀ k (part : Bytes), part.length = k → k ≤ 8 →
        Bytes.beBytes k (UInt64.ofNat (Bytes.beValue part)).toNat = part := by
      intro k part len small
      have fits : Bytes.beValue part < 2 ^ 64 :=
        lt_of_lt_of_le (Bytes.beValue_lt part) (by rw [len]; exact (Nat.pow_le_pow_right (by decide) small).trans (by decide))
      rw [UInt64.toNat_ofNat_of_lt' fits, ← len, Bytes.beBytes_beValue]
    have channel := width 8 (header.take 8) (by simp [sized]) le_rfl
    have request := width 8 ((header.drop 8).take 8) (by simp [sized]) le_rfl
    have length : Bytes.beBytes 4 (Bytes.beValue (header.drop 16)) = header.drop 16 := by
      have : (header.drop 16).length = 4 := by simp [sized]
      rw [← this, Bytes.beBytes_beValue]
    simp only [taken, bind, Except.bind] at h
    by_cases empty : Bytes.beValue (header.drop 16) = 0
    · simp only [empty, beq_self_eq_true, if_true, pure, Except.pure, Except.ok.injEq, Prod.mk.injEq] at h
      obtain ⟨rfl, rfl⟩ := h
      refine ⟨?_, Nat.zero_le _⟩
      rw [← split, encode, channel, request, List.length_nil, ← empty, length, List.append_nil,
        ← header_fields]
    · have small : ¬ maxData < Bytes.beValue (header.drop 16) := by
        intro big
        simp [empty, big] at h
      cases body : takeFull (Bytes.beValue (header.drop 16)) after with
      | error e => simp [empty, small, body] at h
      | ok q =>
        obtain ⟨data, left⟩ := q
        obtain ⟨len, rejoined⟩ := takeFull_ok body
        simp only [empty, small, body, beq_iff_eq, if_false, pure, Except.pure,
          Except.ok.injEq, Prod.mk.injEq] at h
        obtain ⟨rfl, rfl⟩ := h
        refine ⟨?_, show data.length ≤ maxData by omega⟩
        rw [← split, ← rejoined, encode, channel, request, len, length, ← List.append_assoc,
          ← header_fields]

/-- The channel and request id, which its answer carries back. -/
def key (f : Frame) : UInt64 × UInt64 := (f.channel, f.requestId)
end Frame

namespace Served

@[simp] def callOf : Served → Option Frame
  | .call f => some f
  | _ => none

@[simp] def replyOf : Served → Option Frame
  | .reply f => some f
  | _ => none

@[simp] def sentOf : Served → Option Frame
  | .sent f => some f
  | _ => none

def calls (es : List Served) : List Frame := es.filterMap callOf

def replies (es : List Served) : List Frame := es.filterMap replyOf

/-- Every frame queued, answers and pushes alike, oldest first. -/
def queued (es : List Served) : List Frame := es.filterMap sentOf

@[simp] theorem calls_nil : calls [] = [] := rfl
@[simp] theorem replies_nil : replies [] = [] := rfl
@[simp] theorem queued_nil : queued [] = [] := rfl
@[simp] theorem calls_append (es es' : List Served) : calls (es ++ es') = calls es ++ calls es' :=
  List.filterMap_append
@[simp] theorem replies_append (es es' : List Served) : replies (es ++ es') = replies es ++ replies es' :=
  List.filterMap_append
@[simp] theorem queued_append (es es' : List Served) : queued (es ++ es') = queued es ++ queued es' :=
  List.filterMap_append
@[simp] theorem calls_singleton (e : Served) : calls [e] = (callOf e).toList := by
  cases e <;> rfl
@[simp] theorem replies_singleton (e : Served) : replies [e] = (replyOf e).toList := by
  cases e <;> rfl
@[simp] theorem queued_singleton (e : Served) : queued [e] = (sentOf e).toList := by
  cases e <;> rfl

/-- Nothing happened, or the close handler ran once, last, when every call had one answer. -/
def Ended (es : List Served) : Prop :=
  es = [] ∨ ∃ pre, es = pre ++ [.close] ∧ .close ∉ pre ∧
    ((calls pre).map Frame.key).Perm ((replies pre).map Frame.key)
end Served

namespace ServerTransport

def events (t : ServerTransport) (i : Nat) : List Served :=
  t.log.filterMap fun p => if p.1 = i then some p.2 else none

@[simp] theorem events_record (t : ServerTransport) (conn i : Nat) (e : Served) :
    (t.record conn e).events i = if i = conn then t.events i ++ [e] else t.events i := by
  by_cases same : i = conn
  · simp [events, record, same]
  · simp [events, record, same, Ne.symm same]

@[simp] theorem putConn_log (t : ServerTransport) (c : Accepted) : (t.putConn c).log = t.log := rfl
@[simp] theorem dropConn_log (t : ServerTransport) (i : Nat) : (t.dropConn i).log = t.log := rfl
@[simp] theorem note_log (t : ServerTransport) (e : Entry) : (t.note e).log = t.log := rfl

theorem events_of_log {t t' : ServerTransport} (same : t'.log = t.log) : t'.events = t.events := by
  funext i; simp [events, same]

@[simp] theorem events_dropConn (t : ServerTransport) (i : Nat) : (t.dropConn i).events = t.events :=
  events_of_log rfl
@[simp] theorem events_putConn (t : ServerTransport) (c : Accepted) : (t.putConn c).events = t.events :=
  events_of_log rfl
@[simp] theorem events_accept (t : ServerTransport) (l : Nat) : (t.accept l).2.events = t.events :=
  events_of_log rfl

theorem conn?_mem {t : ServerTransport} {i : Nat} {c : Accepted} (found : t.conn? i = some c) :
    c ∈ t.conns ∧ c.id = i := by
  unfold conn? at found
  exact ⟨List.mem_of_find?_eq_some found, by simpa using List.find?_some found⟩

@[simp] theorem putConn_ids (t : ServerTransport) (c : Accepted) :
    (t.putConn c).conns.map (·.id) = t.conns.map (·.id) := by
  simp only [putConn, List.map_map]
  apply List.map_congr_left
  intro d _
  by_cases same : d.id = c.id <;> simp [same]

theorem mem_putConn {t : ServerTransport} {c d : Accepted} (mem : d ∈ (t.putConn c).conns) :
    d = c ∨ (d ∈ t.conns ∧ d.id ≠ c.id) := by
  simp only [putConn, List.mem_map] at mem
  obtain ⟨e, old, rfl⟩ := mem
  by_cases same : e.id = c.id
  · left; simp [same]
  · right; simp [same, old]

@[simp] theorem putConn_workers (t : ServerTransport) (c : Accepted) : (t.putConn c).workers = t.workers := rfl
@[simp] theorem putConn_closed (t : ServerTransport) (c : Accepted) : (t.putConn c).closed = t.closed := rfl
@[simp] theorem putConn_nextId (t : ServerTransport) (c : Accepted) : (t.putConn c).nextId = t.nextId := rfl

theorem mem_putConn_of_ne {t : ServerTransport} {c d : Accepted} (mem : d ∈ t.conns) (differ : d.id ≠ c.id) :
    d ∈ (t.putConn c).conns :=
  List.mem_map.2 ⟨d, mem, by simp [differ]⟩

theorem events_unused {t : ServerTransport} (logged : ∀ p ∈ t.log, p.1 < t.nextId) : t.events t.nextId = [] := by
  unfold events
  rw [List.filterMap_eq_nil_iff]
  intro p mem
  simp [Nat.ne_of_lt (logged p mem)]
end ServerTransport

namespace Link

/-- Add bytes toward the acceptor, take frames sent, or close its end; the acceptor's end and
frames stay. -/
structure Dialed (k k' : Link) : Prop where
  acceptor : k'.acceptorOpen = k.acceptorOpen
  written : k'.written = k.written
  stream : ∃ bs, k'.wrote = k.wrote ++ bs ∧ k'.up = k.up ++ bs
  down : k'.down <:+ k.down
  dialer : k'.dialerOpen = true → k.dialerOpen = true

theorem Dialed.rfl (k : Link) : Dialed k k :=
  ⟨Eq.refl _, Eq.refl _, ⟨[], by simp, by simp⟩, List.suffix_refl _, id⟩

theorem dialed_sendUp (k : Link) (bs : Bytes) : Dialed k (k.sendUp bs) := by
  unfold sendUp
  split
  · exact ⟨Eq.refl _, Eq.refl _, ⟨bs, Eq.refl _, Eq.refl _⟩, List.suffix_refl _, id⟩
  · exact Dialed.rfl k

theorem dialed_takeDown (k : Link) : Dialed k k.takeDown.2 := by
  unfold takeDown
  split
  · exact Dialed.rfl k
  · split
    · rename_i f rest taken
      exact ⟨Eq.refl _, Eq.refl _, ⟨[], by simp, by simp⟩, by simp [taken], id⟩
    · split <;> exact Dialed.rfl k

theorem dialed_hangUp (k : Link) : Dialed k { k with dialerOpen := false } :=
  ⟨Eq.refl _, Eq.refl _, ⟨[], by simp, by simp⟩, List.suffix_refl _, by simp⟩

@[simp] theorem sendDown_up (f : Frame) (k : Link) : (k.sendDown f).up = k.up := by
  unfold sendDown; split <;> rfl
@[simp] theorem sendDown_wrote (f : Frame) (k : Link) : (k.sendDown f).wrote = k.wrote := by
  unfold sendDown; split <;> rfl
@[simp] theorem sendDown_acceptorOpen (f : Frame) (k : Link) : (k.sendDown f).acceptorOpen = k.acceptorOpen := by
  unfold sendDown; split <;> rfl
@[simp] theorem sendDown_dialerOpen (f : Frame) (k : Link) : (k.sendDown f).dialerOpen = k.dialerOpen := by
  unfold sendDown; split <;> rfl

/-- After those written before, on the connection and in the record alike, or nowhere. -/
theorem sendDown_cases (f : Frame) (k : Link) :
    ((k.sendDown f).down = k.down ++ [f] ∧ (k.sendDown f).written = k.written ++ [f] ∧
      k.acceptorOpen = true ∧ k.dialerOpen = true) ∨
    ((k.sendDown f).down = k.down ∧ (k.sendDown f).written = k.written ∧
      (k.acceptorOpen = false ∨ k.dialerOpen = false)) := by
  unfold sendDown
  split
  · rename_i both
    simp only [Bool.and_eq_true] at both
    exact .inl ⟨rfl, rfl, both⟩
  · rename_i either
    simp only [Bool.and_eq_true, not_and_or, Bool.not_eq_true] at either
    exact .inr ⟨rfl, rfl, either⟩

theorem takeUp_frame {k l : Link} {f : Frame} (taken : k.takeUp = (.frame f, l)) :
    ∃ rest, Frame.read k.up = .ok (f, rest) ∧ l = { k with up := rest } := by
  unfold takeUp at taken
  split at taken
  · cases taken
  · split at taken
    · rename_i g rest read
      cases taken
      exact ⟨rest, read, rfl⟩
    · cases taken
    · split at taken <;> cases taken

theorem fifo_sendDown {k : Link} (f : Frame) (h : k.down <:+ k.written) :
    (k.sendDown f).down <:+ (k.sendDown f).written := by
  obtain ⟨t, joined⟩ := h
  rcases sendDown_cases f k with ⟨down, written, -⟩ | ⟨down, written, -⟩
  · rw [down, written, ← joined]; exact ⟨t, by simp⟩
  · rw [down, written]; exact ⟨t, joined⟩

theorem fifo_takeUp {k : Link} (h : k.down <:+ k.written) : k.takeUp.2.down <:+ k.takeUp.2.written := by
  unfold takeUp
  split
  · exact h
  · split
    · exact h
    · exact h
    · split <;> exact h
end Link

namespace ScriptedPeer

@[simp] theorem react_links (p : ScriptedPeer) (f : Frame) : (p.react f).2.2.links = p.links := by
  unfold react
  dsimp only
  cases p.cues with
  | nil => rfl
  | cons c rest =>
    dsimp only
    split
    · rfl
    · split <;> rfl
end ScriptedPeer

namespace Network

variable {σ : Type} {n n' : Network σ} {c : Accepted}

/-! ## One connection at a time -/

theorem lookup_modifyLink_ne {l j : Nat} (g : Link → Link) (differ : j ≠ l) :
    (n.modifyLink l g).links.lookup j = n.links.lookup j := by
  simp only [modifyLink]
  induction n.links with
  | nil => rfl
  | cons p ps ih =>
    obtain ⟨i, k⟩ := p
    simp only [beq_iff_eq] at ih
    by_cases same : i = l
    · subst same
      have other : (j == i) = false := by simpa using differ
      simp [List.lookup, other, ih]
    · by_cases hit : j = i
      · subst hit; simp [List.lookup, same]
      · have other : (j == i) = false := by simpa using hit
        simp [List.lookup, other, ih, same]

theorem link_modifyLink_ne {l j : Nat} (g : Link → Link) (differ : j ≠ l) :
    (n.modifyLink l g).link j = n.link j := by
  simp [link, lookup_modifyLink_ne g differ]

theorem link_modifyLink_of_isSome {l : Nat} (g : Link → Link) (present : (n.links.lookup l).isSome) :
    (n.modifyLink l g).link l = g (n.link l) := by
  obtain ⟨k, found⟩ := Option.isSome_iff_exists.1 present
  simp [link, lookup_modifyLink, found]

theorem link_modifyLink_cases (l : Nat) (g : Link → Link) :
    (n.modifyLink l g).link l = g (n.link l) ∨ (n.modifyLink l g).link l = n.link l := by
  cases found : n.links.lookup l with
  | none => right; simp [link, lookup_modifyLink, found]
  | some k => left; exact link_modifyLink_of_isSome g (by simp [found])

@[simp] theorem isSome_lookup_modifyLink (l j : Nat) (g : Link → Link) :
    ((n.modifyLink l g).links.lookup j).isSome = (n.links.lookup j).isSome := by
  by_cases same : j = l
  · subst same; simp [lookup_modifyLink]
  · rw [lookup_modifyLink_ne g same]

theorem lookup_append_fresh {links : List (Nat × Link)} {k : Nat} (j : Nat) (v : Link)
    (fresh : links.lookup k = none) : (links ++ [(k, v)]).lookup j = if j = k then some v else links.lookup j := by
  induction links with
  | nil =>
    by_cases same : j = k
    · subst same; simp
    · simp [List.lookup, (beq_eq_false_iff_ne).2 same, same]
  | cons p rest ih =>
    obtain ⟨i, w⟩ := p
    have other : k ≠ i := by
      intro same; subst same; simp [List.lookup] at fresh
    have fresh' : rest.lookup k = none := by
      simpa [List.lookup, (beq_eq_false_iff_ne).2 other] using fresh
    by_cases hit : j = i
    · subst hit; simp [List.lookup, Ne.symm other]
    · simp [List.lookup, (beq_eq_false_iff_ne).2 hit, ih fresh']

@[simp] theorem openLink_fst : n.openLink.1 = n.nextLink := rfl

@[simp] theorem link_served (i : Nat) (e : Served) (j : Nat) : (n.served i e).link j = n.link j := rfl

@[simp] theorem cut_server (id : Nat) : (n.cut id).server = n.server := rfl

theorem link_cut (id j : Nat) :
    (n.cut id).link j = n.link j ∨ (n.cut id).link j = { n.link j with acceptorOpen := false } := by
  by_cases same : j = id
  · subst same
    rcases link_modifyLink_cases (n := n) j (fun l => { l with acceptorOpen := false }) with cut | kept
    · exact .inr cut
    · exact .inl kept
  · exact .inl (link_modifyLink_ne _ same)

theorem acceptorOpen_cut_self {id : Nat} (present : (n.links.lookup id).isSome) :
    ((n.cut id).link id).acceptorOpen = false := by
  unfold Network.cut
  rw [link_modifyLink_of_isSome _ present]

theorem acceptorOpen_cut {id j : Nat} (closed : (n.link j).acceptorOpen = false) :
    ((n.cut id).link j).acceptorOpen = false := by
  rcases link_cut (n := n) id j with same | cut
  · rw [same, closed]
  · rw [cut]

/-! ## Queuing frames -/

theorem emit_ok {i : Nat} {f : Frame} (emitted : n.emit i f = .ok n') :
    ∃ c, n.server.conn? i = some c ∧ c.outboxOpen = true ∧
      n' = (n.modifyLink c.link (Link.sendDown f)).served i (.sent f) := by
  unfold emit at emitted
  split at emitted
  · rename_i c found
    split at emitted
    · rename_i opened
      cases emitted
      exact ⟨c, found, opened, rfl⟩
    · cases emitted
  · cases emitted

theorem emit_of_found {i : Nat} (f : Frame) (found : n.server.conn? i = some c) (opened : c.outboxOpen = true) :
    n.emit i f = .ok ((n.modifyLink c.link (Link.sendDown f)).served i (.sent f)) := by
  simp [emit, found, opened]

theorem emit_server {i : Nat} {f : Frame} (emitted : n.emit i f = .ok n') :
    n'.server = { n.server with log := n'.server.log } := by
  obtain ⟨c, -, -, rfl⟩ := emit_ok emitted
  rfl

theorem applyPushes_server (ps : List Push) :
    (n.applyPushes ps).server = { n.server with log := (n.applyPushes ps).server.log } :=
  List.foldlRecOn (motive := fun m : Network σ => m.server = { n.server with log := m.server.log }) ps _ rfl
    fun m same p _ => by
      cases emitted : m.emit p.conn ⟨UInt64.ofNat p.channel, 0, p.data⟩ with
      | error e => exact same
      | ok m' => exact (emit_server emitted).trans (by rw [same]; rfl)

@[simp] theorem applyPushes_conns (ps : List Push) : (n.applyPushes ps).server.conns = n.server.conns := by
  rw [applyPushes_server]
@[simp] theorem applyPushes_workers (ps : List Push) : (n.applyPushes ps).server.workers = n.server.workers := by
  rw [applyPushes_server]
@[simp] theorem applyPushes_closed (ps : List Push) : (n.applyPushes ps).server.closed = n.server.closed := by
  rw [applyPushes_server]
@[simp] theorem applyPushes_nextId (ps : List Push) : (n.applyPushes ps).server.nextId = n.server.nextId := by
  rw [applyPushes_server]

@[simp] theorem respond_conns (i : Nat) (f : Frame) (data : Bytes) :
    (n.respond i f data).server.conns = n.server.conns := by
  unfold Network.respond
  split
  · rename_i m emitted
    show m.server.conns = _
    rw [emit_server emitted]
  · rfl

theorem conn?_of_conns {m : Network σ} {i : Nat} (same : m.server.conns = n.server.conns)
    (found : n.server.conn? i = some c) : m.server.conn? i = some c := by
  unfold ServerTransport.conn?; rw [same]; exact found

@[simp] theorem resumeHeld_conns (svc : Service σ) (i : Nat) (f : Frame) :
    (n.resumeHeld svc i f).server.conns = n.server.conns :=
  respond_conns _ _ _

/-! ## One action of an accepted connection -/

/-- A request `f` taken, its link left `l`, and the handler called: the call recorded, its
state kept, its pushes queued. -/
def handled (svc : Service σ) (c : Accepted) (f : Frame) (l : Link) (n : Network σ) : Network σ :=
  ({ (n.modifyLink c.link fun _ => l).served c.id (.call f) with
      service := (svc.answer c.id f.channel f.data n.service).2.2 } : Network σ).applyPushes
    (svc.answer c.id f.channel f.data n.service).2.1

@[simp] theorem handled_conns (svc : Service σ) (c : Accepted) (f : Frame) (l : Link) :
    (n.handled svc c f l).server.conns = n.server.conns := by
  rw [handled, applyPushes_conns]; rfl
@[simp] theorem handled_workers (svc : Service σ) (c : Accepted) (f : Frame) (l : Link) :
    (n.handled svc c f l).server.workers = n.server.workers := by
  rw [handled, applyPushes_workers]; rfl
@[simp] theorem handled_closed (svc : Service σ) (c : Accepted) (f : Frame) (l : Link) :
    (n.handled svc c f l).server.closed = n.server.closed := by
  rw [handled, applyPushes_closed]; rfl

/-- Read a whole request and call the handler, answering at once or holding it; stop reading;
or, stopped and holding nothing, run the close handler and end. -/
theorem serveStep_cases {svc : Service σ} (served : n.serveStep svc c = some n') :
    (∃ f l d, c.reading = true ∧ n.server.hasWorker c = true ∧ (n.link c.link).takeUp = (.frame f, l) ∧
      (svc.answer c.id f.channel f.data n.service).1 = .reply d ∧ n' = (n.handled svc c f l).respond c.id f d) ∨
    (∃ f l, c.reading = true ∧ n.server.hasWorker c = true ∧ (n.link c.link).takeUp = (.frame f, l) ∧
      (svc.answer c.id f.channel f.data n.service).1 = .hold ∧
      n' = let m := n.handled svc c f l
        let c' := (m.server.conn? c.id).getD c
        { m with server := m.server.putConn { c' with held := c'.held ++ [f] } }) ∨
    (∃ why, c.reading = true ∧ n' = n.stopReading c why) ∨
    (c.reading = false ∧ c.held = [] ∧ c.outboxOpen = true ∧ ∃ (ps : List Push) (s : σ),
      n' = let m := (({ n with service := s } : Network σ).applyPushes ps).served c.id .close
        { (m.cut c.link) with server := m.server.dropConn c.id }) := by
  unfold Network.serveStep at served
  split at served
  · rename_i reading
    split at served
    · cases served
    · rename_i free
      split at served
      · rename_i f l taken
        simp only at served
        split at served
        · rename_i d answer
          cases served
          exact .inl ⟨f, l, d, reading, by simpa using free, taken, answer, rfl⟩
        · rename_i answer
          cases served
          exact .inr (.inl ⟨f, l, reading, by simpa using free, taken, answer, rfl⟩)
      · cases served
      · cases served; exact .inr (.inr (.inl ⟨_, reading, rfl⟩))
      · cases served; exact .inr (.inr (.inl ⟨_, reading, rfl⟩))
  · rename_i reading
    split at served
    · rename_i idle
      simp only [Bool.and_eq_true, List.isEmpty_iff] at idle
      cases served
      exact .inr (.inr (.inr ⟨by simpa using reading, idle.1, idle.2, _, _, rfl⟩))
    · cases served

/-! ## Binding an address -/

theorem bind_ok {addr k : String} {m : Network σ} (bound : n.bind addr = .ok (k, m)) :
    m.server = n.server ∧ m.links = n.links ∧ m.nextLink = n.nextLink ∧ m.peer = n.peer := by
  unfold Network.bind at bound
  split at bound
  · split at bound
    · cases bound
    · cases bound; exact ⟨rfl, rfl, rfl, rfl⟩
  · split at bound
    · cases bound
    · split at bound <;> (cases bound; exact ⟨rfl, rfl, rfl, rfl⟩)
end Network

end InferenceBroker

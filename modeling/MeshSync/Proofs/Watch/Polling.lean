import MeshSync.Mesh.Client
import MeshSync.Proofs.Watch.Attending

/-! # How a track polls

    A track sends one query after another, each at the cursor that the answers
    before it left, and a query at the start of a track is answered at once.
    The route:

    * `Track.progress` - where a track is, whatever it is about, and
      `turns_of_step`: all that an event can do to it.
    * `asked` and `told` - the queries of a track in a run, and how they ended.
    * `Polled` - the n-th query asks for what comes after the cursor that the
      n outcomes before it left; kept by every step (`Polled.step`).
    * **`next_poll_carries_marker`** - after a query without a cursor that was
      answered, the next one carries what the header of the reply told.  So it
      is one without a cursor again exactly if the header told the start: the
      client refuses a reply without the header, but not one that tells an
      index of zero or an empty hash (`zero_index_polls_again_at_once`). -/

namespace MeshSync.Watch

/-- How a query ended: the position of its answer, or an error. -/
abbrev Told := Except Mesh.Error Mesh.Position

/-! ## Cursors -/

namespace Cursor

/-- The cursor after a query ended. -/
def follow (c : Cursor) : Told → Cursor
  | .ok p => (c.advance p).1
  | .error _ => c.reset

/-- The cursor after some queries ended. -/
def after (c : Cursor) (told : List Told) : Cursor := told.foldl follow c

/-- One more end of a query. -/
theorem after_snoc (c : Cursor) (told : List Told) (r : Told) :
    c.after (told ++ [r]) = (c.after told).follow r := List.foldl_concat _ _ _ _

/-- A cursor that is reset stays so. -/
theorem reset_reset (c : Cursor) : c.reset.reset = c.reset := by cases c <;> rfl

/-- No end of a query changes what a cursor is reset to. -/
theorem reset_follow (c : Cursor) (r : Told) : (c.follow r).reset = c.reset := by
  cases r with
  | error e => exact reset_reset c
  | ok p => cases c <;> rfl

/-- A cursor never becomes one of the other kind. -/
theorem reset_after (c : Cursor) (told : List Told) : (c.after told).reset = c.reset := by
  induction told generalizing c with
  | nil => rfl
  | cons r rest ih => exact (ih (c.follow r)).trans (reset_follow c r)

/-- From its start a cursor goes wherever the answer says: no index lies before
    zero. -/
theorem advance_of_start {c : Cursor} (h : c.reset = c) (p : Mesh.Position) :
    (c.advance p).1 = c.mark p := by
  cases c with
  | index n =>
      obtain rfl : 0 = n := Cursor.index.inj h
      have hnot : ¬ p.index < 0 := UInt64.not_lt_zero
      rw [advance, if_neg hnot, mark]
  | hash s => rfl

end Cursor

/-! ## Queries -/

/-- Whether a query asks for what comes after a cursor. -/
def Follows (q : Mesh.Query) (c : Cursor) : Prop := ∃ wait datacenter, q = c.query wait datacenter

/-- Whether a query carries no cursor, so that it is answered at once. -/
def AtStart (q : Mesh.Query) : Prop := q.index = 0 ∧ q.hash = ""

/-- A query carries no cursor exactly at the start. -/
theorem Follows.atStart_iff {q : Mesh.Query} {c : Cursor} (h : Follows q c) :
    AtStart q ↔ c = c.reset := by
  obtain ⟨wait, datacenter, rfl⟩ := h
  cases c with
  | index n =>
      constructor
      · exact fun hq => congrArg Cursor.index hq.1
      · exact fun hc => ⟨Cursor.index.inj hc, rfl⟩
  | hash s =>
      constructor
      · exact fun hq => congrArg Cursor.hash hq.2
      · exact fun hc => ⟨rfl, Cursor.hash.inj hc⟩

/-! ## Where a track is -/

/-- Whether a track is between two queries. -/
def Stage.isBetween : Stage → Bool
  | asking | written | settled | pausing => true
  | waiting | received | stopped => false

/-- Where a track is, whatever it is about. -/
structure Progress where
  cursor : Cursor
  stage : Stage
  /-- How the query ended that the track is about to look at. -/
  held : Option Told

namespace Track

variable {α : Type} {t t' : Track α}

/-- How the query ended that a track is about to look at. -/
def held? (t : Track α) : Option Told :=
  match t.phase with
  | .received r => some (r.map (·.2))
  | _ => none

/-- Where a track is. -/
def progress (t : Track α) : Progress := ⟨t.cursor, t.stage, t.held?⟩

/-- A track that looks at an answer follows it. -/
theorem follow_of_process {news : News α} (h : t.process = some (t', news)) :
    ∃ r, t.stage = .received ∧ t.held? = some r ∧ t'.cursor = t.cursor.follow r ∧
      t'.stage.isBetween = true := by
  obtain ⟨cursor, phase, awaited⟩ := t
  cases phase with
  | received reply =>
      cases reply with
      | error e =>
          obtain ⟨rfl, -⟩ := Prod.mk.inj (Option.some.inj h)
          exact ⟨.error e, rfl, rfl, rfl, rfl⟩
      | ok a =>
          refine ⟨.ok a.2, rfl, rfl, ?_⟩
          rw [process] at h
          dsimp only at h
          split at h
          · obtain ⟨rfl, -⟩ := Prod.mk.inj (Option.some.inj h)
            exact ⟨rfl, rfl⟩
          · obtain ⟨rfl, -⟩ := Prod.mk.inj (Option.some.inj h)
            exact ⟨rfl, rfl⟩
  | asking => cases h
  | waiting => cases h
  | written => cases h
  | settled => cases h
  | pausing => cases h
  | stopped => cases h

end Track

/-- The cursor that a track begins with. -/
def TrackId.start : TrackId → Cursor
  | .caRoots => .index 0
  | .leaf => .index 0
  | .proxy => .hash ""
  | .service => .hash ""
  | .upstream _ => .index 0

/-- Tracks begin where a reset brings them. -/
theorem TrackId.reset_start (t : TrackId) : t.start.reset = t.start := by cases t <;> rfl

/-- How a query of a track ends with an event. -/
def Event.told? (t : TrackId) : Event → Option Told
  | .caRootsReply r => if t = .caRoots then some (r.map (·.2)) else none
  | .leafReply r => if t = .leaf then some (r.map (·.2)) else none
  | .proxyReply r => if t = .proxy then some (r.map (·.2)) else none
  | .serviceReply r => if t = .service then some (r.map (·.2)) else none
  | .upstreamReply id r => if t = .upstream id then some (r.map (·.2)) else none
  | _ => none

/-- Whether an event neither sends a query of a track nor ends one. -/
def Event.Apart (t : TrackId) (e : Event) : Prop := e ≠ .ask t ∧ e.told? t = none

/-- Whether an event sends a query. -/
def Event.asks : Event → Bool
  | .ask _ => true
  | _ => false

/-- An event that sends no query is not the sending of one. -/
theorem Event.ne_ask {e : Event} (h : e.asks = false) (t : TrackId) : e ≠ .ask t := by
  rintro rfl
  cases h

/-- An event that sends no query and ends none of a track is apart from it. -/
theorem Event.Apart.of_asks {e : Event} {t : TrackId} (ha : e.asks = false)
    (h : e.told? t = none) : e.Apart t := ⟨e.ne_ask ha t, h⟩

/-- All that an event can do to a track. -/
inductive Progress.Turns (t : TrackId) (e : Event) (p p' : Progress) : Prop where
  | ask (he : e = .ask t) (hs : p.stage = .asking) (h : p' = ⟨p.cursor, .waiting, none⟩)
  | hear (r : Told) (he : e.told? t = some r) (hne : e ≠ .ask t) (hs : p.stage = .waiting)
      (h : p' = ⟨p.cursor, .received, some r⟩)
  | look (r : Told) (he : e.Apart t) (hs : p.stage = .received) (hr : p.held = some r)
      (hc : p'.cursor = p.cursor.follow r) (hs' : p'.stage.isBetween = true)
  | move (he : e.Apart t) (hs : p.stage.isBetween = true) (hc : p'.cursor = p.cursor)
      (hs' : p'.stage.isBetween = true)
  | stop (he : e.Apart t) (hs' : p'.stage = .stopped)
  | rest (he : e.Apart t) (h : p' = p)

/-- Whether a track is where some queries and their ends have brought it.  While
    it waits, one query more was sent than has ended, and its cursor follows an
    end only when it has looked at it. -/
inductive Progress.Stands (start : Cursor) (sent : Nat) (told : List Told) (p : Progress) : Prop where
  | between (hs : p.stage.isBetween = true) (hn : sent = told.length)
      (hc : p.cursor = start.after told)
  | waiting (hs : p.stage = .waiting) (hn : sent = told.length + 1)
      (hc : p.cursor = start.after told)
  | received (before : List Told) (r : Told) (hs : p.stage = .received) (hr : p.held = some r)
      (htold : told = before ++ [r]) (hn : sent = told.length) (hc : p.cursor = start.after before)
  | stopped (hs : p.stage = .stopped)

namespace Progress.Stands

variable {start : Cursor} {sent : Nat} {told : List Told} {p : Progress}

/-- Between two queries as many have ended as were sent. -/
theorem of_between (h : p.Stands start sent told) (hs : p.stage.isBetween = true) :
    sent = told.length ∧ p.cursor = start.after told := by
  cases h with
  | between _ hn hc => exact ⟨hn, hc⟩
  | waiting hs' =>
      rw [hs'] at hs
      exact nomatch hs
  | received _ _ hs' =>
      rw [hs'] at hs
      exact nomatch hs
  | stopped hs' =>
      rw [hs'] at hs
      exact nomatch hs

/-- While a track waits one query more was sent than has ended. -/
theorem of_waiting (h : p.Stands start sent told) (hs : p.stage = .waiting) :
    sent = told.length + 1 ∧ p.cursor = start.after told := by
  cases h with
  | between hs' =>
      rw [hs] at hs'
      exact nomatch hs'
  | waiting _ hn hc => exact ⟨hn, hc⟩
  | received _ _ hs' => exact nomatch hs.symm.trans hs'
  | stopped hs' => exact nomatch hs.symm.trans hs'

/-- A track that is about to look at an end has not followed it yet. -/
theorem of_received (h : p.Stands start sent told) (hs : p.stage = .received) :
    ∃ before r, p.held = some r ∧ told = before ++ [r] ∧ sent = told.length ∧
      p.cursor = start.after before := by
  cases h with
  | between hs' =>
      rw [hs] at hs'
      exact nomatch hs'
  | waiting hs' => exact nomatch hs.symm.trans hs'
  | received before r _ hr htold hn hc => exact ⟨before, r, hr, htold, hn, hc⟩
  | stopped hs' => exact nomatch hs.symm.trans hs'

end Progress.Stands

/-- The same of a track that may not have begun. -/
inductive Goes (t : TrackId) (e : Event) : Option Progress → Option Progress → Prop where
  | turns {p p' : Progress} (h : p.Turns t e p') : Goes t e (some p) (some p')
  | unborn (he : e.Apart t) : Goes t e none none
  | begin (he : e.Apart t) : Goes t e none (some ⟨t.start, .asking, none⟩)

/-- What is apart from a track leaves it where it is. -/
theorem Goes.rest {t : TrackId} {e : Event} (he : e.Apart t) (x : Option Progress) :
    Goes t e x x := by
  cases x with
  | none => exact .unborn he
  | some p => exact .turns (.rest he rfl)

namespace Watcher

variable {w w' first : Watcher} {e : Event} {es : List Event} {t : TrackId}

/-- Where a track of a watcher is. -/
def progress? (w : Watcher) (t : TrackId) : Option Progress :=
  match t with
  | .caRoots => some w.caRoots.progress
  | .leaf => some w.leaf.progress
  | .proxy => some w.proxy.progress
  | .service => some w.service.progress
  | .upstream id => (w.watch? id).map (·.track.progress)

/-- The track of a watch that is replaced is where the new one is. -/
theorem progress?_setWatch {id : WatchId} {u : UpstreamWatch} (hu : w.watch? id = some u)
    (s : Track (List Mesh.Instance)) :
    (w.setWatch { u with track := s }).progress? (.upstream id) = some s.progress := by
  have hid : u.id = id := id_of_watch? hu
  have hset : (w.setWatch { u with track := s }).watch? id = some { u with track := s } :=
    watch?_setWatch_self hu hid
  rw [progress?, hset]
  rfl

/-- A step of one track. -/
theorem progress_onTrack {f : {α : Type} → Track α → Option (Track α)}
    {R : Progress → Progress → Prop}
    (hf : ∀ {α : Type} (s s' : Track α), f s = some s' → R s.progress s'.progress)
    (h : w.onTrack t f = some w') :
    ∃ p p', w.progress? t = some p ∧ w'.progress? t = some p' ∧ R p p' := by
  cases t with
  | caRoots =>
      obtain ⟨s, hs, rfl⟩ := Option.map_eq_some_iff.1 h
      exact ⟨_, _, rfl, rfl, hf _ _ hs⟩
  | leaf =>
      obtain ⟨s, hs, rfl⟩ := Option.map_eq_some_iff.1 h
      exact ⟨_, _, rfl, rfl, hf _ _ hs⟩
  | proxy =>
      obtain ⟨s, hs, rfl⟩ := Option.map_eq_some_iff.1 h
      exact ⟨_, _, rfl, rfl, hf _ _ hs⟩
  | service =>
      obtain ⟨s, hs, rfl⟩ := Option.map_eq_some_iff.1 h
      exact ⟨_, _, rfl, rfl, hf _ _ hs⟩
  | upstream id =>
      obtain ⟨u, hu, h⟩ := Option.bind_eq_some_iff.1 h
      obtain ⟨s, hs, h⟩ := Option.bind_eq_some_iff.1 h
      obtain rfl := Option.some.inj h
      exact ⟨_, _, by rw [progress?, hu]; rfl, progress?_setWatch hu s, hf _ _ hs⟩

/-- Putting a watch in place of itself touches no other track. -/
theorem progress?_setWatch_of_ne {u : UpstreamWatch} (h : t ≠ .upstream u.id) :
    (w.setWatch u).progress? t = w.progress? t := by
  cases t with
  | upstream id =>
      have hid : id ≠ u.id := fun heq => h (congrArg TrackId.upstream heq)
      rw [progress?, progress?, watch?_setWatch_of_ne hid]
  | _ => rfl

/-- What is done to one track leaves the others where they are. -/
theorem progress?_onTrack_of_ne {t' : TrackId} {f : {α : Type} → Track α → Option (Track α)}
    (hne : t ≠ t') (h : w.onTrack t' f = some w') : w'.progress? t = w.progress? t := by
  cases t' with
  | upstream id =>
      obtain ⟨u, hu, h⟩ := Option.bind_eq_some_iff.1 h
      obtain ⟨s, hs, h⟩ := Option.bind_eq_some_iff.1 h
      obtain rfl := Option.some.inj h
      have hid : u.id = id := id_of_watch? hu
      exact progress?_setWatch_of_ne fun heq => hne (heq.trans (congrArg TrackId.upstream hid))
  | caRoots =>
      obtain ⟨s, -, rfl⟩ := Option.map_eq_some_iff.1 h
      cases t with
      | caRoots => exact absurd rfl hne
      | _ => rfl
  | leaf =>
      obtain ⟨s, -, rfl⟩ := Option.map_eq_some_iff.1 h
      cases t with
      | leaf => exact absurd rfl hne
      | _ => rfl
  | proxy =>
      obtain ⟨s, -, rfl⟩ := Option.map_eq_some_iff.1 h
      cases t with
      | proxy => exact absurd rfl hne
      | _ => rfl
  | service =>
      obtain ⟨s, -, rfl⟩ := Option.map_eq_some_iff.1 h
      cases t with
      | service => exact absurd rfl hne
      | _ => rfl

/-- A new definition lets every track be where it was, and begins new ones. -/
theorem goes_redefine (he : e.Apart t) (w : Watcher) (service : Mesh.Service) :
    Goes t e (w.progress? t) ((w.redefine service).progress? t) := by
  cases t with
  | upstream id =>
      have hcancel : ∀ us : List UpstreamWatch, ∀ ids,
          ((us.map (cancelAmong ids)).find? (·.id = id)).map (·.track.progress) =
            (us.find? (·.id = id)).map (·.track.progress) := by
        intro us ids
        have hid : ((fun u : UpstreamWatch => decide (u.id = id)) ∘ cancelAmong ids) =
            fun u => decide (u.id = id) := by
          funext u
          rw [Function.comp, id_cancelAmong]
        rw [List.find?_map, hid]
        cases us.find? (·.id = id) with
        | none => rfl
        | some u =>
            rw [Option.map_some, Option.map_some, Option.map_some, cancelAmong]
            split <;> rfl
      rw [progress?, progress?, watch?, watch?, watches_redefine, List.find?_append, Option.map_or,
        hcancel]
      cases (w.watches.find? (·.id = id)).map (·.track.progress) with
      | some p => exact .rest he _
      | none =>
          rw [Option.none_or, List.find?_map]
          cases List.find? _ (w.state.define w.watches.length service).started with
          | none => exact .unborn he
          | some s => exact .begin he
  | _ => exact .rest he _

/-- The watch whose report is written turns as its track does. -/
theorem goes_reportInstances {id : WatchId} {u : UpstreamWatch} {s : Track (List Mesh.Instance)}
    {instances : List Mesh.Instance} (he : e.Apart (.upstream id)) (hu : w.watch? id = some u)
    (hs : u.track.progress.Turns (.upstream id) e s.progress) :
    Goes (.upstream id) e (w.progress? (.upstream id))
      ((w.reportInstances { u with track := s } instances).progress? (.upstream id)) := by
  have hprogress : w.progress? (.upstream id) = some u.track.progress := by
    rw [progress?, hu]
    rfl
  have hstop (x : Track (List Mesh.Instance)) :
      Goes (.upstream id) e (some u.track.progress) (some x.drop.progress) := .turns (.stop he rfl)
  rw [hprogress, reportInstances]
  split
  · rw [progress?_setWatch hu]
    exact hstop s
  · split
    · rw [progress?_setWatch hu]
      exact hstop s
    · have hset : (w.setWatch { u with track := s }).progress? (.upstream id) = some s.progress :=
        progress?_setWatch hu s
      exact hset ▸ .turns hs

/-- What is reported of an upstream lets the other tracks be. -/
theorem goes_reportInstances_other {u : UpstreamWatch} {s : Track (List Mesh.Instance)}
    {instances : List Mesh.Instance} (he : e.Apart t) (hne : t ≠ .upstream u.id) :
    Goes t e (w.progress? t) ((w.reportInstances { u with track := s } instances).progress? t) := by
  have hkept (x : Track (List Mesh.Instance)) :
      (w.setWatch { u with track := x }).progress? t = w.progress? t :=
    progress?_setWatch_of_ne hne
  rw [reportInstances]
  split
  · exact (hkept _).symm ▸ .rest he _
  · next record _ =>
      split
      · exact (hkept _).symm ▸ .rest he _
      · have hset : { w.setWatch { u with track := s } with
            state := w.state.setInstances u.service record instances }.progress? t =
              w.progress? t := hkept s
        exact hset.symm ▸ .rest he _

/-- Whatever an answer changes, it lets the tracks of other things be. -/
theorem goes_process_other {t' : TrackId} (he : e.Apart t) (hne : t ≠ t')
    (h : w.process t' = some w') : Goes t e (w.progress? t) (w'.progress? t) := by
  cases t' with
  | caRoots =>
      obtain ⟨⟨s, news⟩, -, h⟩ := Option.bind_eq_some_iff.1 h
      have hrest : Goes t e (w.progress? t) ({ w with caRoots := s }.progress? t) := by
        cases t with
        | caRoots => exact absurd rfl hne
        | _ => exact .rest he _
      cases news <;> exact Option.some.inj h ▸ hrest
  | leaf =>
      obtain ⟨⟨s, news⟩, -, h⟩ := Option.bind_eq_some_iff.1 h
      have hrest : Goes t e (w.progress? t) ({ w with leaf := s }.progress? t) := by
        cases t with
        | leaf => exact absurd rfl hne
        | _ => exact .rest he _
      cases news <;> exact Option.some.inj h ▸ hrest
  | service =>
      obtain ⟨⟨s, news⟩, -, h⟩ := Option.bind_eq_some_iff.1 h
      have hrest : Goes t e (w.progress? t) ({ w with service := s }.progress? t) := by
        cases t with
        | service => exact absurd rfl hne
        | _ => exact .rest he _
      cases news <;> exact Option.some.inj h ▸ hrest
  | proxy =>
      obtain ⟨⟨s, news⟩, -, h⟩ := Option.bind_eq_some_iff.1 h
      have hkept : { w with proxy := s }.progress? t = w.progress? t := by
        cases t with
        | proxy => exact absurd rfl hne
        | _ => rfl
      -- a new definition or a new list may cancel the watch that the track is of
      cases news with
      | changed service =>
          rw [← hkept, ← Option.some.inj h]
          exact goes_redefine he _ service
      | same => exact Option.some.inj h ▸ hkept ▸ .rest he _
      | failed => exact Option.some.inj h ▸ hkept ▸ .rest he _
  | upstream id =>
      obtain ⟨u, hu, h⟩ := Option.bind_eq_some_iff.1 h
      obtain ⟨⟨s, news⟩, -, h⟩ := Option.bind_eq_some_iff.1 h
      have hother : t ≠ .upstream u.id := fun heq =>
        hne (heq.trans (congrArg TrackId.upstream (id_of_watch? hu)))
      have hkept : (w.setWatch { u with track := s }).progress? t = w.progress? t :=
        progress?_setWatch_of_ne hother
      cases news with
      | changed instances =>
          rw [← Option.some.inj h]
          exact goes_reportInstances_other he hother
      | same => exact Option.some.inj h ▸ hkept.symm ▸ .rest he _
      | failed => exact Option.some.inj h ▸ hkept.symm ▸ .rest he _

/-- Looking at an answer follows it. -/
theorem turns_of_process {α : Type} {s s' : Track α} {news : News α} (he : e.Apart t)
    (h : s.process = some (s', news)) : s.progress.Turns t e s'.progress := by
  obtain ⟨r, hstage, hheld, hcursor, hbetween⟩ := Track.follow_of_process h
  exact .look r he hstage hheld hcursor hbetween

/-- **Looking at an end** turns the track that looks, and no other. -/
theorem goes_process (he : e.Apart t) (h : w.process t = some w') :
    Goes t e (w.progress? t) (w'.progress? t) := by
  cases t with
  | caRoots =>
      obtain ⟨⟨s, news⟩, hs, h⟩ := Option.bind_eq_some_iff.1 h
      cases news <;> exact Option.some.inj h ▸ .turns (turns_of_process he hs)
  | leaf =>
      obtain ⟨⟨s, news⟩, hs, h⟩ := Option.bind_eq_some_iff.1 h
      cases news <;> exact Option.some.inj h ▸ .turns (turns_of_process he hs)
  | proxy =>
      obtain ⟨⟨s, news⟩, hs, h⟩ := Option.bind_eq_some_iff.1 h
      cases news <;> exact Option.some.inj h ▸ .turns (turns_of_process he hs)
  | service =>
      obtain ⟨⟨s, news⟩, hs, h⟩ := Option.bind_eq_some_iff.1 h
      cases news <;> exact Option.some.inj h ▸ .turns (turns_of_process he hs)
  | upstream id =>
      obtain ⟨u, hu, h⟩ := Option.bind_eq_some_iff.1 h
      obtain ⟨⟨s, news⟩, hs, h⟩ := Option.bind_eq_some_iff.1 h
      have hturns : u.track.progress.Turns (.upstream id) e s.progress := turns_of_process he hs
      have hprogress : w.progress? (.upstream id) = some u.track.progress := by
        rw [progress?, hu]
        rfl
      have hset : (w.setWatch { u with track := s }).progress? (.upstream id) = some s.progress :=
        progress?_setWatch hu s
      cases news with
      | changed instances => exact Option.some.inj h ▸ goes_reportInstances he hu hturns
      | same =>
          rw [← Option.some.inj h, hprogress, hset]
          exact .turns hturns
      | failed =>
          rw [← Option.some.inj h, hprogress]
          exact hset ▸ .turns hturns

/-- A step of one track does to it what `R` says, and to no other track. -/
theorem goes_onTrack {t' : TrackId} {f : {α : Type} → Track α → Option (Track α)}
    {R : Progress → Progress → Prop}
    (hf : ∀ {α : Type} (s s' : Track α), f s = some s' → R s.progress s'.progress)
    (hR : ∀ p p', R p p' → t = t' → p.Turns t e p') (he : t ≠ t' → e.Apart t)
    (h : w.onTrack t' f = some w') : Goes t e (w.progress? t) (w'.progress? t) := by
  by_cases ht : t = t'
  · subst ht
    obtain ⟨p, p', hp, hp', hturn⟩ := progress_onTrack hf h
    rw [hp, hp']
    exact .turns (hR p p' hturn rfl)
  · rw [progress?_onTrack_of_ne ht h]
    exact .rest (he ht) _

/-- Getting a reply is what ends a query. -/
theorem turns_of_receive {α : Type} {r : Reply α} {s s' : Track α}
    (he : e.told? t = some (r.map (·.2))) (hne : e ≠ .ask t) (h : s.receive r = some s') :
    s.progress.Turns t e s'.progress := by
  obtain ⟨hphase, rfl⟩ := Track.receive_eq h
  exact .hear _ he hne (by rw [Track.progress, Track.stage, hphase]) rfl

/-- A reply to one watch turns that one's track. -/
theorem goes_receive {id : WatchId} {r : Reply (List Mesh.Instance)}
    (h : w.onWatch id (·.receive r) = some w') :
    Goes t (.upstreamReply id r) (w.progress? t) (w'.progress? t) := by
  obtain ⟨u, hu, h⟩ := Option.bind_eq_some_iff.1 h
  obtain ⟨s, hs, h⟩ := Option.bind_eq_some_iff.1 h
  obtain rfl := Option.some.inj h
  have hid : u.id = id := id_of_watch? hu
  by_cases ht : t = .upstream id
  · subst ht
    rw [progress?_setWatch hu, progress?, hu]
    exact .turns (turns_of_receive (if_pos rfl) nofun hs)
  · have hkept : (w.setWatch { u with track := s }).progress? t = w.progress? t :=
      progress?_setWatch_of_ne fun heq => ht (heq.trans (congrArg TrackId.upstream hid))
    have he : (Event.upstreamReply id r).Apart t := ⟨nofun, if_neg ht⟩
    rw [hkept]
    exact .rest he _

/-- What else happens to a track when it asks, is let go on, or is told to
    stop. -/
theorem goes_quiet {t' : TrackId} {f : {α : Type} → Track α → Option (Track α)} (he : e.Apart t)
    (hf : ∀ {α : Type} (s s' : Track α), f s = some s' →
      s'.stage = .stopped ∨
        (s.stage.isBetween = true ∧ s'.cursor = s.cursor ∧ s'.stage.isBetween = true))
    (h : w.onTrack t' f = some w') : Goes t e (w.progress? t) (w'.progress? t) := by
  refine goes_onTrack (R := fun p p' => p'.stage = .stopped ∨
    (p.stage.isBetween = true ∧ p'.cursor = p.cursor ∧ p'.stage.isBetween = true))
    hf (fun p p' hR _ => ?_) (fun _ => he) h
  rcases hR with hstop | ⟨hs, hc, hs'⟩
  · exact .stop he hstop
  · exact .move he hs hc hs'

/-- What the publisher does, and what is done to it, lets every track be. -/
theorem goes_of_steps (he : e.Apart t) (hquiet : e.quiet = false) (hnotify : ∀ t', e ≠ .notify t')
    (hprocess : ∀ t', e ≠ .process t') (h : Steps w e w') :
    Goes t e (w.progress? t) (w'.progress? t) := by
  have hrest : Goes t e (w.progress? t) (w.progress? t) := .rest he _
  cases h with
  | quiet _ _ hq _ => exact absurd (hquiet.symm.trans hq) Bool.false_ne_true
  | notify t' => exact absurd rfl (hnotify t')
  | process t' => exact absurd rfl (hprocess t')
  | _ => cases t <;> exact hrest

/-- **All that an event can do to a track.** -/
theorem goes_of_step (t : TrackId) (h : w.step e = some w') :
    Goes t e (w.progress? t) (w'.progress? t) := by
  cases e with
  | ask t' =>
      refine goes_onTrack (R := fun p p' => p.stage = .asking ∧ p' = ⟨p.cursor, .waiting, none⟩)
        (fun s s' hs => ?_) (fun p p' hR ht => ?_) (fun hne => ⟨fun heq => ?_, rfl⟩) h
      · obtain ⟨hphase, rfl⟩ := Track.ask_eq hs
        exact ⟨by rw [Track.progress, Track.stage, hphase], rfl⟩
      · exact .ask (congrArg Event.ask ht.symm) hR.1 hR.2
      · exact hne (Event.ask.inj heq).symm
  | caRootsReply r =>
      obtain ⟨s, hs, rfl⟩ := Option.map_eq_some_iff.1 h
      have he : t ≠ .caRoots → (Event.caRootsReply r).Apart t := fun hne => .of_asks rfl (if_neg hne)
      cases t with
      | caRoots => exact .turns (turns_of_receive rfl ((Event.caRootsReply r).ne_ask rfl _) hs)
      | _ => exact .rest (he TrackId.noConfusion) _
  | leafReply r =>
      obtain ⟨s, hs, rfl⟩ := Option.map_eq_some_iff.1 h
      have he : t ≠ .leaf → (Event.leafReply r).Apart t := fun hne => .of_asks rfl (if_neg hne)
      cases t with
      | leaf => exact .turns (turns_of_receive rfl ((Event.leafReply r).ne_ask rfl _) hs)
      | _ => exact .rest (he TrackId.noConfusion) _
  | proxyReply r =>
      obtain ⟨s, hs, rfl⟩ := Option.map_eq_some_iff.1 h
      have he : t ≠ .proxy → (Event.proxyReply r).Apart t := fun hne => .of_asks rfl (if_neg hne)
      cases t with
      | proxy => exact .turns (turns_of_receive rfl ((Event.proxyReply r).ne_ask rfl _) hs)
      | _ => exact .rest (he TrackId.noConfusion) _
  | serviceReply r =>
      obtain ⟨s, hs, rfl⟩ := Option.map_eq_some_iff.1 h
      have he : t ≠ .service → (Event.serviceReply r).Apart t := fun hne => .of_asks rfl (if_neg hne)
      cases t with
      | service => exact .turns (turns_of_receive rfl ((Event.serviceReply r).ne_ask rfl _) hs)
      | _ => exact .rest (he TrackId.noConfusion) _
  | upstreamReply id r => exact goes_receive h
  | process t' =>
      have he : (Event.process t').Apart t := .of_asks rfl rfl
      by_cases ht : t = t'
      · exact goes_process he (ht ▸ h)
      · exact goes_process_other he ht h
  | notify t' =>
      obtain ⟨v, hv, rfl⟩ := Option.map_eq_some_iff.1 h
      -- that the signal is given concerns no track
      show Goes t (.notify t') (w.progress? t) (v.progress? t)
      refine goes_quiet (.of_asks rfl rfl) (fun s s' hs => .inr ?_) hv
      obtain ⟨hphase, rfl⟩ := Track.notify_eq hs
      exact ⟨by rw [Track.stage, hphase]; rfl, rfl, rfl⟩
  | arrive t' =>
      refine goes_quiet (.of_asks rfl rfl) (fun s s' hs => .inr ?_) h
      obtain ⟨hphase, rfl⟩ := Track.arrive_eq hs
      exact ⟨by rw [Track.stage, hphase]; rfl, rfl, rfl⟩
  | wake t' =>
      refine goes_quiet (.of_asks rfl rfl) (fun s s' hs => .inr ?_) h
      obtain ⟨hphase, rfl⟩ := Track.wake_eq hs
      exact ⟨by rw [Track.stage, hphase]; rfl, rfl, rfl⟩
  | stop t' =>
      rw [step] at h
      split at h
      · refine goes_quiet (.of_asks rfl rfl) (fun s s' hs => .inl ?_) h
        obtain ⟨-, rfl⟩ := Track.stop_eq hs
        rfl
      · cases h
  | _ =>
      exact goes_of_steps (.of_asks rfl rfl) rfl (fun _ => Event.noConfusion)
        (fun _ => Event.noConfusion) (steps_of_step h)

/-! ## The queries of a run -/

/-- The query that a track sends in a moment. -/
def asked? (t : TrackId) : Watcher × Event → Option Mesh.Query
  | (w, .ask t') => if t' = t then (w.question? t).map (·.2) else none
  | _ => none

/-- The queries that a track sends in a run, in their order. -/
def asked (w : Watcher) (t : TrackId) (es : List Event) : List Mesh.Query :=
  (w.moments es).filterMap (asked? t)

/-- How the queries of a track end in a run, in their order. -/
def told (w : Watcher) (t : TrackId) (es : List Event) : List Told :=
  (w.moments es).filterMap fun x => x.2.told? t

/-- One more event, and the query that it sends, if any. -/
theorem asked_snoc (h : first.run es = some w) (t : TrackId) (e : Event) :
    first.asked t (es ++ [e]) = first.asked t es ++ (asked? t (w, e)).toList := by
  rw [asked, asked, moments_snoc h, List.filterMap_append]
  cases hasked : asked? t (w, e) <;> simp [hasked]

/-- One more event, and the end that it brings, if any. -/
theorem told_snoc (h : first.run es = some w) (t : TrackId) (e : Event) :
    first.told t (es ++ [e]) = first.told t es ++ (e.told? t).toList := by
  rw [told, told, moments_snoc h, List.filterMap_append]
  cases htold : e.told? t <;> simp [htold]

/-- A track asks for what comes after its cursor. -/
theorem asked?_ask {p : Progress} (h : w.progress? t = some p) :
    ∃ q, asked? t (w, .ask t) = some q ∧ Follows q p.cursor := by
  cases t with
  | upstream id =>
      obtain ⟨u, hu, rfl⟩ := Option.map_eq_some_iff.1 h
      exact ⟨_, by rw [asked?, if_pos rfl, question?, hu]; rfl, _, _, rfl⟩
  | _ =>
      obtain rfl := Option.some.inj h
      exact ⟨_, by rw [asked?, if_pos rfl]; rfl, _, _, rfl⟩

/-- Nothing but asking sends a query. -/
theorem asked?_of_ne (he : e ≠ .ask t) : asked? t (w, e) = none := by
  cases e with
  | ask t' => exact if_neg fun heq => he (congrArg Event.ask heq)
  | _ => rfl

/-! ## What the queries ask for -/

/-- What is known of the queries of a track and of how they ended: each query
    asks for what comes after the cursor that the ends before it left. -/
structure Polled (t : TrackId) (asked : List Mesh.Query) (told : List Told) (w : Watcher) :
    Prop where
  follows : ∀ i q, asked[i]? = some q → Follows q (t.start.after (told.take i))
  stands : ∀ p, w.progress? t = some p → p.Stands t.start asked.length told
  unborn : w.progress? t = none → asked = [] ∧ told = []

/-- Before anything has happened no query was sent. -/
theorem polled_start (t : TrackId) (serviceId : String) (wait : Nat)
    (proxy : Except Mesh.Error String) (service : Except Mesh.Error Mesh.Service) :
    Polled t [] [] (start serviceId wait proxy service) := by
  refine ⟨nofun, fun p hp => ?_, fun _ => ⟨rfl, rfl⟩⟩
  have hnew (identity : Identity) (hp : (new identity wait).progress? t = some p) :
      p.Stands t.start 0 [] := by
    cases t with
    | upstream id => exact nomatch hp
    | _ => exact Option.some.inj hp ▸ .between rfl rfl rfl
  have hended (identity : Identity) (e : WatchError)
      (hp : (ended identity wait e).progress? t = some p) : p.Stands t.start 0 [] := by
    cases t with
    | upstream id => exact nomatch hp
    | _ => exact Option.some.inj hp ▸ .stopped rfl
  cases proxy with
  | error e => exact hended _ _ hp
  | ok proxyId =>
      cases service with
      | error e => exact hended _ _ hp
      | ok s => exact hnew _ hp

variable {queries : List Mesh.Query} {ends : List Told}

/-- A query that is sent asks for what comes after all ends. -/
theorem Polled.ask {p : Progress} (h : Polled t queries ends w) (hp : w.progress? t = some p)
    (hs : p.stage = .asking) (hp' : w'.progress? t = some ⟨p.cursor, .waiting, none⟩) :
    Polled t (queries ++ (asked? t (w, .ask t)).toList) ends w' := by
  obtain ⟨q, hq, hfollows⟩ := asked?_ask hp
  obtain ⟨hn, hc⟩ := (h.stands p hp).of_between (by rw [hs]; rfl)
  rw [hq, Option.toList_some]
  refine ⟨fun i q' hi => ?_, fun p' hp'' => ?_, fun hnone => ?_⟩
  · rcases Nat.lt_or_ge i queries.length with hlt | hge
    · exact h.follows i q' (by rwa [List.getElem?_append_left hlt] at hi)
    · rw [List.getElem?_append_right hge, List.getElem?_singleton] at hi
      split at hi
      · obtain rfl := Option.some.inj hi
        rwa [List.take_of_length_le (hn ▸ hge), ← hc]
      · exact nomatch hi
  · obtain rfl := Option.some.inj (hp'.symm.trans hp'')
    exact .waiting rfl (by rw [List.length_append, List.length_singleton, hn]) hc
  · rw [hp'] at hnone
    exact nomatch hnone

/-- An end changes nothing about the queries that were sent before it. -/
theorem Polled.hear {p : Progress} {r : Told} (h : Polled t queries ends w)
    (hp : w.progress? t = some p) (hs : p.stage = .waiting)
    (hp' : w'.progress? t = some ⟨p.cursor, .received, some r⟩) :
    Polled t queries (ends ++ [r]) w' := by
  obtain ⟨hn, hc⟩ := (h.stands p hp).of_waiting hs
  refine ⟨fun i q hi => ?_, fun p' hp'' => ?_, fun hnone => ?_⟩
  · have hlt : i < queries.length := (List.getElem?_eq_some_iff.1 hi).1
    rw [List.take_append_of_le_length (by omega)]
    exact h.follows i q hi
  · obtain rfl := Option.some.inj (hp'.symm.trans hp'')
    exact .received ends r rfl rfl rfl (by rw [hn, List.length_append, List.length_singleton]) hc
  · rw [hp'] at hnone
    exact nomatch hnone

/-- **What is known of the queries is known after every step.** -/
theorem Polled.step (h : Polled t queries ends w) (hs : w.step e = some w') :
    Polled t (queries ++ (asked? t (w, e)).toList) (ends ++ (e.told? t).toList) w' := by
  have hgoes := goes_of_step t hs
  -- where no query is sent and none ends, only the place of the track changes
  have quiet (he : e.Apart t) (hstands : ∀ p', w'.progress? t = some p' →
      p'.Stands t.start queries.length ends) (hunborn : w'.progress? t = none →
      queries = [] ∧ ends = []) :
      Polled t (queries ++ (asked? t (w, e)).toList) (ends ++ (e.told? t).toList) w' := by
    rw [asked?_of_ne he.1, he.2, Option.toList_none, Option.toList_none, List.append_nil,
      List.append_nil]
    exact ⟨h.follows, hstands, hunborn⟩
  generalize hx : w.progress? t = x at hgoes
  generalize hx' : w'.progress? t = x' at hgoes
  cases hgoes with
  | unborn he => exact quiet he (fun p' hp' => nomatch hx'.symm.trans hp') fun _ => h.unborn hx
  | begin he =>
      obtain ⟨rfl, rfl⟩ := h.unborn hx
      refine quiet he (fun p' hp' => ?_) fun hnone => nomatch hx'.symm.trans hnone
      obtain rfl := Option.some.inj (hx'.symm.trans hp')
      exact .between rfl rfl rfl
  | @turns p p' hturns =>
      have hstands := h.stands p hx
      have born (he : e.Apart t) (hp' : p'.Stands t.start queries.length ends) :
          Polled t (queries ++ (asked? t (w, e)).toList) (ends ++ (e.told? t).toList) w' := by
        refine quiet he (fun p'' hp'' => ?_) fun hnone => nomatch hx'.symm.trans hnone
        exact Option.some.inj (hx'.symm.trans hp'') ▸ hp'
      cases hturns with
      | ask he hstage hp' =>
          subst he
          rw [show (Event.ask t).told? t = none from rfl, Option.toList_none, List.append_nil]
          exact h.ask hx hstage (hp' ▸ hx')
      | hear r he hne hstage hp' =>
          rw [asked?_of_ne hne, he, Option.toList_none, Option.toList_some, List.append_nil]
          exact h.hear hx hstage (hp' ▸ hx')
      | look r he hstage hheld hc hs' =>
          obtain ⟨before, r', hr', hends, hn, hcursor⟩ := hstands.of_received hstage
          obtain rfl := Option.some.inj (hheld.symm.trans hr')
          refine born he (.between hs' hn ?_)
          rw [hc, hcursor, hends, Cursor.after_snoc]
      | move he hs hc hs' =>
          obtain ⟨hn, hcursor⟩ := hstands.of_between hs
          exact born he (.between hs' hn (hc.trans hcursor))
      | stop he hs' => exact born he (.stopped hs')
      | rest he hp' => exact born he (hp' ▸ hstands)

/-- **In every run queries follow their ends.** -/
theorem polled_of_run {serviceId : String} {wait : Nat} {proxy : Except Mesh.Error String}
    {service : Except Mesh.Error Mesh.Service}
    (h : (start serviceId wait proxy service).run es = some w) (t : TrackId) :
    Polled t ((start serviceId wait proxy service).asked t es)
      ((start serviceId wait proxy service).told t es) w := by
  refine run_induction (P := fun es w => Polled t ((start serviceId wait proxy service).asked t es)
    ((start serviceId wait proxy service).told t es) w) ?_ (fun es v e v' hv hP hstep => ?_) h
  · exact polled_start t serviceId wait proxy service
  · rw [asked_snoc hv, told_snoc hv]
    exact hP.step hstep

end Watcher

/-! ## What replies tell -/

/-- The index in the header of a reply. -/
def indexTold? (reply : Http.Reply) : Option UInt64 :=
  (((reply.header? Mesh.indexHeader).bind Http.headerText?).bind fun text =>
    Decimal.natural? Decimal.max64 text.toList).map UInt64.ofNat

/-- The content hash in the header of a reply. -/
def hashTold? (reply : Http.Reply) : Option String :=
  (reply.header? Mesh.hashHeader).bind Http.headerText?

/-- The cursor that the header of a reply to a track tells. -/
def TrackId.cursorTold? (t : TrackId) (reply : Http.Reply) : Option Cursor :=
  match t with
  | .caRoots | .leaf | .upstream _ => (indexTold? reply).map .index
  | .proxy | .service => (hashTold? reply).map .hash

/-- Whether the client takes a reply to a track for an answer at a position. -/
def TrackId.Accepts (t : TrackId) (reply : Http.Reply) (p : Mesh.Position) : Prop :=
  match t with
  | .caRoots => ∃ content, Mesh.Endpoint.caRoots.interpret reply = .ok (content, p)
  | .leaf => ∃ service content, (Mesh.Endpoint.caLeaf service).interpret reply = .ok (content, p)
  | .proxy | .service => ∃ id content,
      (Mesh.Endpoint.agentService id).interpret reply = .ok (content, p)
  | .upstream _ => ∃ service content,
      (Mesh.Endpoint.instances service).interpret reply = .ok (content, p)

/-- Of two steps that succeed together the first did, and the second with
    what it gave. -/
theorem exists_of_bind_ok {ε α β : Type} {x : Except ε α} {f : α → Except ε β} {b : β}
    (h : x >>= f = .ok b) : ∃ a, x = .ok a ∧ f a = .ok b := by
  cases x with
  | error e => exact nomatch h
  | ok a => exact ⟨a, rfl, h⟩

/-- The position of an answer is what was read of the headers. -/
theorem position_of_interpret {α : Type} {e : Mesh.Endpoint α} {reply : Http.Reply} {content : α}
    {p : Mesh.Position} (h : e.interpret reply = .ok (content, p)) :
    Mesh.readIndex e.path (e.marker = .index) reply = .ok p.index ∧
      Mesh.readHash e.path (e.marker = .hash) reply = .ok p.hash := by
  rw [Mesh.Endpoint.interpret] at h
  split at h
  · exact nomatch h
  · dsimp only at h
    split at h
    · exact nomatch h
    · obtain ⟨position, hread, h⟩ := exists_of_bind_ok h
      obtain ⟨index, hindex, hread⟩ := exists_of_bind_ok hread
      obtain ⟨hash, hhash, hread⟩ := exists_of_bind_ok hread
      obtain rfl : ⟨index, hash⟩ = position := Except.ok.inj hread
      split at h
      · obtain ⟨-, rfl⟩ := Prod.mk.inj (Except.ok.inj h)
        exact ⟨hindex, hhash⟩
      · exact nomatch h

/-- An index that was read was told. -/
theorem indexTold_of_read {path : String} {reply : Http.Reply} {index : UInt64}
    (h : Mesh.readIndex path true reply = .ok index) : indexTold? reply = some index := by
  rw [Mesh.readIndex] at h
  rw [indexTold?]
  split at h
  · exact nomatch h
  · next bytes hbytes =>
      rw [hbytes]
      split at h
      · next n hn =>
          rw [Option.bind_some, hn]
          exact congrArg some (Except.ok.inj h)
      · exact nomatch h

/-- A hash that the client reads is one that the header has. -/
theorem hashTold_of_read {path : String} {reply : Http.Reply} {hash : String}
    (h : Mesh.readHash path true reply = .ok hash) : hashTold? reply = some hash := by
  rw [Mesh.readHash] at h
  rw [hashTold?]
  split at h
  · exact nomatch h
  · next bytes hbytes =>
      rw [hbytes]
      split at h
      · next text htext =>
          rw [Option.bind_some, htext]
          exact congrArg some (Except.ok.inj h)
      · exact nomatch h

/-- **An accepted reply tells a cursor**, and the answer names it. -/
theorem TrackId.Accepts.told {t : TrackId} {reply : Http.Reply} {p : Mesh.Position}
    (h : t.Accepts reply p) : t.cursorTold? reply = some (t.start.mark p) := by
  cases t with
  | caRoots =>
      obtain ⟨content, h⟩ := h
      exact congrArg (Option.map Cursor.index) (indexTold_of_read (position_of_interpret h).1)
  | leaf =>
      obtain ⟨service, content, h⟩ := h
      exact congrArg (Option.map Cursor.index) (indexTold_of_read (position_of_interpret h).1)
  | upstream id =>
      obtain ⟨service, content, h⟩ := h
      exact congrArg (Option.map Cursor.index) (indexTold_of_read (position_of_interpret h).1)
  | proxy =>
      obtain ⟨id, content, h⟩ := h
      exact congrArg (Option.map Cursor.hash) (hashTold_of_read (position_of_interpret h).2)
  | service =>
      obtain ⟨id, content, h⟩ := h
      exact congrArg (Option.map Cursor.hash) (hashTold_of_read (position_of_interpret h).2)

/-! ## The next query -/

namespace Watcher

variable {w : Watcher} {es : List Event}

/-- **The next query carries what the reply told.** Whatever else happens: after
    a query without a cursor that the client took a reply for an answer to, the
    next query of the same track carries the index or the hash in the header of
    that reply.  So two such queries in a row are both answered at once exactly
    if the header told the start, an index of zero or an empty hash. -/
theorem next_poll_carries_marker {serviceId : String} {wait : Nat}
    {proxy : Except Mesh.Error String} {service : Except Mesh.Error Mesh.Service}
    (h : (start serviceId wait proxy service).run es = some w) {t : TrackId} {i : Nat}
    {q q' : Mesh.Query} {p : Mesh.Position} {reply : Http.Reply}
    (hq : ((start serviceId wait proxy service).asked t es)[i]? = some q) (hstart : AtStart q)
    (hp : ((start serviceId wait proxy service).told t es)[i]? = some (.ok p))
    (haccepts : t.Accepts reply p)
    (hq' : ((start serviceId wait proxy service).asked t es)[i + 1]? = some q') :
    ∃ c, t.cursorTold? reply = some c ∧ Follows q' c ∧ (AtStart q' ↔ c = t.start) := by
  have hpolled := polled_of_run h t
  generalize (start serviceId wait proxy service).asked t es = queries at hq hq' hpolled
  generalize (start serviceId wait proxy service).told t es = ends at hp hpolled
  -- the query was sent from the start, and the answer leads from there to the next
  have hbefore : t.start.after (ends.take i) = t.start := by
    have hreset := (hpolled.follows i q hq).atStart_iff.1 hstart
    rw [Cursor.reset_after, t.reset_start] at hreset
    exact hreset
  have hnext : t.start.after (ends.take (i + 1)) = t.start.mark p := by
    rw [List.take_add_one, hp, Option.toList_some, Cursor.after_snoc, hbefore]
    exact Cursor.advance_of_start t.reset_start p
  have hfollows : Follows q' (t.start.mark p) := hnext ▸ hpolled.follows (i + 1) q' hq'
  refine ⟨_, haccepts.told, hfollows, ?_⟩
  rw [hfollows.atStart_iff, Cursor.reset_mark, t.reset_start]

/-- A reply about the authorities, of which there are none, at an index of one
    digit. -/
def rootsReply (digit : UInt8) : Http.Reply := ⟨200, [("x-consul-index", [digit])], [123, 125]⟩

/-- The track of the authorities asks and looks at an answer, at an index. -/
def polling (index : UInt64) : List Event :=
  [.ask .caRoots, .caRootsReply (.ok (⟨"", []⟩, ⟨index, ""⟩)), .process .caRoots]

/-- It learns something at index 7, and asks again. -/
def pollingTwice : List Event := polling 7 ++ [.notify .caRoots, .arrive .caRoots, .ask .caRoots]

/-- The query after an answer at index 7 carries that index. -/
theorem index_seven_is_carried : ∃ q q', webStart.asked .caRoots pollingTwice = [q, q'] ∧
    AtStart q ∧ Follows q' (.index 7) ∧ ¬ AtStart q' := by
  have hrun : webStart.run pollingTwice = some ((webStart.run pollingTwice).get rfl) := rfl
  have hfirst : (webStart.asked .caRoots pollingTwice)[0]? = some ⟨0, "", 600000, none⟩ := rfl
  have hnext : (webStart.asked .caRoots pollingTwice)[0 + 1]? = some ⟨7, "", 600000, none⟩ := rfl
  have hstart : AtStart ⟨0, "", 600000, none⟩ := ⟨rfl, rfl⟩
  have haccepts : TrackId.caRoots.Accepts (rootsReply 55) ⟨7, ""⟩ := ⟨⟨"", []⟩, rfl⟩
  obtain ⟨c, hc, hfollows, hiff⟩ := next_poll_carries_marker hrun hfirst hstart rfl haccepts hnext
  obtain rfl : .index 7 = c := Option.some.inj hc
  exact ⟨_, _, rfl, hstart, hfollows, fun hq' => nomatch hiff.1 hq'⟩

/-- **An index of zero makes a track ask again at once.** The client takes the
    reply for an answer, and the query after it carries no cursor either. -/
theorem zero_index_polls_again_at_once : ∃ w q q' p,
    webStart.run (polling 0 ++ [.arrive .caRoots] ++ polling 0) = some w ∧
      TrackId.caRoots.Accepts (rootsReply 48) p ∧
      webStart.asked .caRoots (polling 0 ++ [.arrive .caRoots] ++ polling 0) = [q, q'] ∧
      webStart.told .caRoots (polling 0 ++ [.arrive .caRoots] ++ polling 0) = [.ok p, .ok p] ∧
      AtStart q ∧ AtStart q' :=
  ⟨_, _, _, ⟨0, ""⟩, rfl, ⟨⟨"", []⟩, rfl⟩, rfl, rfl, ⟨rfl, rfl⟩, ⟨rfl, rfl⟩⟩

end Watcher

end MeshSync.Watch

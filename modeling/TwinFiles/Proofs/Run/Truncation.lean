import TwinFiles.Proofs.Sink.Delivery
import TwinFiles.Run

/-!
# What arrives of a run

A run writes one text, `Run.output`: progress and report, or the report alone. Progress arrives as
far as there is room (`Console.perform_delivers`), and writing a report succeeds when all of it
arrives (`TextReport.deliver_writes`, `JsonReport.write_writes`, `CsvReport.write_writes`). So a
limited sink does nothing to a run but cut its output (`Run.limited_sink_truncates`).
-/

namespace TwinFiles

/-! ## Progress lines -/

namespace Console

/-- Lines arrive like one text. One that does not fit is given up, and none behind it fits. -/
theorem emit_delivers (s : Sink) (lines : List Bytes) :
    s.Delivers (lines.flatMap (· ++ [Ascii.newline])) (emit s lines).1 := by
  induction lines generalizing s with
  | nil => exact .nil s
  | cons line lines ih =>
    have hline := s.write_delivers (line ++ [Ascii.newline])
    rw [emit, List.flatMap_cons]
    cases hw : s.write (line ++ [Ascii.newline]) with
    | mk t result =>
      rw [hw] at hline
      -- either way the other lines are tried at the sink that is left
      cases result with
      | ok _ => exact hline.append (ih t)
      | error _ => exact hline.append (ih t)

/-- The progress of a scan arrives as far as there is room. -/
theorem perform_delivers (color : Bool) (home : Path) (s : Sink) (steps : List Happening) :
    s.Delivers (text color home (steps.filterMap Happening.call?))
      ((reporter color home).perform s steps).1 := by
  induction steps generalizing s with
  | nil => exact .nil s
  | cons step steps ih =>
    cases step with
    | note record => exact ih s
    | call call =>
      have hlines := emit_delivers s (lines color home call)
      have htext : text color home ((.call call :: steps).filterMap Happening.call?) =
          (lines color home call).flatMap (· ++ [Ascii.newline]) ++
            text color home (steps.filterMap Happening.call?) := by
        rw [text, List.filterMap_cons]
        simp [Happening.call?, text]
      rw [htext]
      exact hlines.append (ih _)

end Console

/-! ## Reports -/

namespace TextReport

/-- A report has a line at least. -/
theorem text_ne_nil (color : Bool) (wanted : Bytes) (groups : List Group) :
    text color wanted groups ≠ [] := by
  rw [text, pieces, lines]
  cases groups <;> simp

theorem write_writes (s : Sink) (color : Bool) (wanted : Bytes) (groups : List Group) :
    s.Writes (text color wanted groups) (write s color wanted groups) := by
  have h := s.writeAll_writes (pieces color wanted groups)
  rw [write]
  cases hw : s.writeAll (pieces color wanted groups) with
  | mk t result =>
    rw [hw] at h
    have hnamed := h.rename ReportFailure.text
    cases result with
    | ok _ => exact hnamed
    | error f => exact hnamed

/-- The flush that follows succeeds, so it changes nothing. -/
theorem deliver_writes {s : Sink} (hflush : s.failsFlush = false) (color : Bool) (wanted : Bytes)
    (groups : List Group) :
    s.Writes (text color wanted groups) (deliver s color wanted groups) := by
  have h := write_writes s color wanted groups
  rw [deliver]
  cases hw : write s color wanted groups with
  | mk t result =>
    rw [hw] at h
    cases result with
    | ok _ =>
      simp only [h.delivers.flush_ok hflush]
      exact h
    | error e => exact h

end TextReport

namespace JsonReport

/-- The report as one text. -/
def text (indented : Bool) (groups : List Group) (s : Summary) (c : Circumstances) : Bytes :=
  (pieces indented groups s c).flatten

theorem write_writes (sink : Sink) (indented : Bool) (groups : List Group) (s : Summary)
    (c : Circumstances) :
    sink.Writes (text indented groups s c) (write sink indented groups s c) := by
  have h := sink.writeAll_writes (pieces indented groups s c)
  rw [write]
  cases hw : sink.writeAll (pieces indented groups s c) with
  | mk t result =>
    rw [hw] at h
    have hnamed := h.rename ReportFailure.json
    cases result with
    | ok _ => exact hnamed
    | error f => exact hnamed

end JsonReport

namespace CsvReport

theorem flatten_buffers (groups : List Group) : (buffers groups).flatten = text groups := by
  rw [buffers, Csv.flatten_pack, text, Csv.document]
  induction records groups with
  | nil => rfl
  | cons record records ih =>
    rw [List.flatMap_cons, List.flatMap_cons, List.flatten_append, ih]
    rfl

/-- The second try of a buffer that did not fit finds no room, so nothing arrives twice. -/
theorem passOn_writes (s : Sink) (buffer : Bytes) : s.Writes buffer (passOn s buffer) := by
  have h := s.write_writes buffer
  rw [passOn]
  cases hw : s.write buffer with
  | mk t result =>
    rw [hw] at h
    cases result with
    | ok _ => exact h
    | error f =>
      have hcut : ¬ s.room.Fits buffer := h.not_fits
      have hagain : s.Delivers buffer (t.write buffer).1 := by
        have hboth := h.delivers.append (t.write_delivers buffer)
        have hpart : s.room.part (buffer ++ buffer) = s.room.part buffer := by
          rw [Room.part_append, Room.part_after_cut hcut, List.append_nil]
        exact ⟨by rw [hboth.received, hpart], by rw [hboth.room, hpart], hboth.failsFlush⟩
      exact ⟨hagain, iff_of_false (fun he => nomatch he) hcut⟩

theorem finish_writes {s : Sink} (hflush : s.failsFlush = false) (last : Bytes) :
    s.Writes last (finish s last) := by
  have h := passOn_writes s last
  rw [finish]
  cases hw : passOn s last with
  | mk t result =>
    rw [hw] at h
    have hnamed := h.rename ReportFailure.csvEnd
    cases result with
    | ok _ =>
      simp only [h.delivers.flush_ok hflush]
      exact hnamed
    | error f => exact hnamed

/-- Buffers arrive like one text, up to the first that does not fit. -/
theorem writeBuffers_writes {s : Sink} (hflush : s.failsFlush = false) (buffers : List Bytes) :
    s.Writes buffers.flatten (writeBuffers s buffers) := by
  induction buffers generalizing s with
  | nil => exact finish_writes hflush []
  | cons buffer buffers ih =>
    cases buffers with
    | nil =>
      rw [List.flatten_cons, List.flatten_nil, List.append_nil]
      exact finish_writes hflush buffer
    | cons next rest =>
      have hfirst := passOn_writes s buffer
      rw [writeBuffers, List.flatten_cons]
      cases hw : passOn s buffer with
      | mk t result =>
        rw [hw] at hfirst
        cases result with
        | ok _ => exact hfirst.and_then (ih (hfirst.delivers.failsFlush.trans hflush))
        | error f => exact hfirst.give_up _ _

theorem write_writes {s : Sink} (hflush : s.failsFlush = false) (groups : List Group) :
    s.Writes (text groups) (write s groups) := by
  have h := writeBuffers_writes hflush (buffers groups)
  rw [flatten_buffers] at h
  exact h

end CsvReport

/-! ## Runs -/

namespace Run

/-- The whole text that a run writes. -/
def output (v : View) (s : Settings) (duration : Duration) (time : Instant) : Bytes :=
  let scan := Scan.run v s.selection [] s.folder
  let (groups, summary) := scan.result
  match s.output with
  | .text =>
    Console.text s.color v.homePath scan.calls ++ TextReport.text s.color summary.wanted groups
  | .json => JsonReport.text true groups summary ⟨.success, duration, time⟩
  | .csv => CsvReport.text groups

theorem exit_eq_success_iff (written : Except ReportFailure Unit) :
    exit written = .ok .success ↔ written = .ok () := by
  cases written with
  | ok u => exact iff_of_true rfl rfl
  | error e => exact iff_of_false (fun he => nomatch he) (fun he => nomatch he)

/-- What a run finds and calls does not depend on its sink. -/
theorem calls_perform (v : View) (s : Settings) (duration : Duration) (time : Instant)
    (sink : Sink) :
    (perform v s duration time sink).calls = (Scan.run v s.selection [] s.folder).calls ∧
      (perform v s duration time sink).findings =
        (Scan.run v s.selection [] s.folder).result := by
  rw [perform]
  cases s.output <;> exact ⟨rfl, rfl⟩

/-- Progress and report for people share a sink. Since the report is not empty, a run whose progress
was cut cannot end well. -/
theorem text_writes {sink t : Sink} {progress : Bytes} (hprogress : sink.Delivers progress t)
    (hflush : sink.failsFlush = false) (color : Bool) (wanted : Bytes) (groups : List Group) :
    sink.Writes (progress ++ TextReport.text color wanted groups)
      (TextReport.deliver t color wanted groups) := by
  have hreport := TextReport.deliver_writes (hprogress.failsFlush.trans hflush) color wanted groups
  refine ⟨hprogress.append hreport.delivers, ?_⟩
  rw [hreport.ok_iff, hprogress.fits_append_iff]
  constructor
  · intro hfits
    refine ⟨Decidable.byContradiction fun hcut => ?_, hfits⟩
    exact hprogress.not_fits_of_cut hcut (TextReport.text_ne_nil color wanted groups) hfits
  · rintro ⟨_, hfits⟩
    exact hfits

/-- A run writes its output, and ends as that turned out. -/
theorem perform_writes (v : View) (s : Settings) (duration : Duration) (time : Instant)
    {sink : Sink} (hflush : sink.failsFlush = false) :
    ∃ written,
      sink.Writes (output v s duration time) ((perform v s duration time sink).sink, written) ∧
      (perform v s duration time sink).result = exit written := by
  rw [perform, output]
  cases s.output with
  | text =>
    have hprogress := Console.perform_delivers s.color v.homePath sink
      (Scan.run v s.selection [] s.folder).steps
    exact ⟨_, text_writes hprogress hflush _ _ _, rfl⟩
  | json => exact ⟨_, JsonReport.write_writes sink true _ _ _, rfl⟩
  | csv => exact ⟨_, CsvReport.write_writes hflush _, rfl⟩

variable (v : View) (s : Settings) (duration : Duration) (time : Instant) (room : Room)

/-- The part of the output that there is room for arrives. -/
theorem received_perform :
    (perform v s duration time (.new room false)).sink.received =
      room.part (output v s duration time) := by
  obtain ⟨_, hwrites, _⟩ := perform_writes v s duration time
    (show (Sink.new room false).failsFlush = false from rfl)
  exact hwrites.delivers.received

/-- A run succeeds exactly when all of its output fits. -/
theorem perform_succeeds_iff :
    (perform v s duration time (.new room false)).result = .ok .success ↔
      room.Fits (output v s duration time) := by
  obtain ⟨written, hwrites, hresult⟩ := perform_writes v s duration time
    (show (Sink.new room false).failsFlush = false from rfl)
  rw [hresult, exit_eq_success_iff]
  exact hwrites.ok_iff

/-- A run that does not succeed fails with an error. -/
theorem perform_fails_of_not_fits (hcut : ¬ room.Fits (output v s duration time)) :
    ∃ e, (perform v s duration time (.new room false)).result = .error e := by
  obtain ⟨written, hwrites, hresult⟩ := perform_writes v s duration time
    (show (Sink.new room false).failsFlush = false from rfl)
  rw [hresult]
  cases written with
  | ok u => exact absurd (hwrites.ok_iff.mp rfl) hcut
  | error e => exact ⟨e, rfl⟩

/-- A limited sink only truncates. With room for everything a run succeeds, whatever the folder
holds, and writes its output. With less room the part of that output that fits arrives, the run
succeeds if that is all of it and fails otherwise, and it calls and finds the same. -/
theorem limited_sink_truncates :
    let full := perform v s duration time .unlimited
    let limited := perform v s duration time (.new room false)
    full.result = .ok .success ∧ full.sink.received = output v s duration time ∧
      limited.sink.received = room.part full.sink.received ∧
      limited.sink.received <+: full.sink.received ∧
      (limited.result = .ok .success ↔ room.part full.sink.received = full.sink.received) ∧
      (room.part full.sink.received ≠ full.sink.received → ∃ e, limited.result = .error e) ∧
      limited.calls = full.calls ∧ limited.findings = full.findings := by
  intro full limited
  have hfull : full.sink.received = output v s duration time :=
    received_perform v s duration time .unlimited
  obtain ⟨hcallsFull, hfindingsFull⟩ := calls_perform v s duration time .unlimited
  obtain ⟨hcalls, hfindings⟩ := calls_perform v s duration time (.new room false)
  rw [hfull]
  refine ⟨?_, rfl, received_perform v s duration time room, ?_,
    perform_succeeds_iff v s duration time room, perform_fails_of_not_fits v s duration time room,
    hcalls.trans hcallsFull.symm, hfindings.trans hfindingsFull.symm⟩
  · exact (perform_succeeds_iff v s duration time .unlimited).mpr (Room.fits_unlimited _)
  · rw [show limited.sink.received = _ from received_perform v s duration time room]
    exact room.part_isPrefix _

end Run

end TwinFiles

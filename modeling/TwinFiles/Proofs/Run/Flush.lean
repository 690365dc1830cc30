import TwinFiles.Proofs.Fallible
import TwinFiles.Proofs.Run.Destination

/-!
# When a run succeeds

A run for people, and one that writes comma-separated text, succeeds only when a destination has
taken every piece of the report (`Destination.Takes`) and a flush behind the last of them. A run
that writes JSON asks for no flush, so it succeeds once the pieces are taken, and what a flush would
have told is lost (`Run.success_iff_taken`).
-/

namespace TwinFiles

namespace Destination

variable {σ : Type} {d : Destination σ} {state mid after : σ} {text : Bytes} {texts : List Bytes}

/-- Texts that a destination takes one after another, with the states before and after. -/
inductive Takes (d : Destination σ) : σ → List Bytes → σ → Prop
  | nil (state : σ) : Takes d state [] state
  | cons {state mid after : σ} {text : Bytes} {texts : List Bytes} :
      d.write state text = (mid, .ok ()) → Takes d mid texts after →
      Takes d state (text :: texts) after

theorem takes_cons_iff (h : d.write state text = (mid, .ok ())) :
    d.Takes state (text :: texts) after ↔ d.Takes mid texts after := by
  constructor
  · intro htakes
    cases htakes with
    | cons hwrite hrest =>
      rw [h] at hwrite
      cases hwrite
      exact hrest
  · exact .cons h

/-- A text that is refused is the end. -/
theorem not_takes_cons {f : SinkFailure} (h : d.write state text = (mid, .error f)) :
    ¬ d.Takes state (text :: texts) after := by
  intro htakes
  cases htakes with
  | cons hwrite _ =>
    rw [h] at hwrite
    cases hwrite

theorem writeAll_eq_ok_iff :
    d.writeAll state texts = (after, .ok ()) ↔ d.Takes state texts after := by
  induction texts generalizing state with
  | nil =>
    constructor
    · intro h
      cases h
      exact .nil after
    · intro h
      cases h
      rfl
  | cons text texts ih =>
    rw [writeAll]
    cases hw : d.write state text with
    | mk mid result =>
      cases result with
      | ok _ => exact ih.trans (takes_cons_iff hw).symm
      | error f => exact iff_of_false (fun he => by cases he) (not_takes_cons hw)

/-- There is one way to be behind texts that are taken. -/
theorem exists_takes_iff (P : σ → Prop) :
    (∃ after, d.Takes state texts after ∧ P after) ↔
      (d.writeAll state texts).2 = .ok () ∧ P (d.writeAll state texts).1 := by
  constructor
  · rintro ⟨after, htakes, hP⟩
    rw [writeAll_eq_ok_iff.mpr htakes]
    exact ⟨rfl, hP⟩
  · rintro ⟨hok, hP⟩
    exact ⟨_, writeAll_eq_ok_iff.mp (Prod.ext rfl hok), hP⟩

/-! ## The three forms -/

theorem writeText_ok_iff :
    (d.writeText state texts).2 = .ok () ↔
      ∃ after, d.Takes state texts after ∧ (d.flush after).2 = .ok () := by
  rw [exists_takes_iff fun after => (d.flush after).2 = .ok (), writeText]
  cases d.writeAll state texts with
  | mk after result =>
    cases result with
    | error f => simp
    | ok _ =>
      show (d.flush after).2.mapError ReportFailure.text = .ok () ↔ _
      rw [mapError_eq_ok_iff, and_iff_right rfl]

/-- Nobody asks whether the pieces can be flushed. -/
theorem writeJson_ok_iff :
    (d.writeJson state texts).2 = .ok () ↔ ∃ after, d.Takes state texts after := by
  have h : (∃ after, d.Takes state texts after ∧ True) ↔ _ := exists_takes_iff fun _ => True
  simp only [and_true] at h
  rw [h]
  exact mapError_eq_ok_iff

theorem passOn_of_ok (h : d.write state text = (mid, .ok ())) :
    d.passOn state text = (mid, .ok ()) := by
  rw [passOn, h]

/-- The second try of a buffer does not mend the first. -/
theorem passOn_of_error {f : SinkFailure} (h : d.write state text = (mid, .error f)) :
    ∃ after, d.passOn state text = (after, .error f) := by
  simp only [passOn, h]
  cases d.write mid text with
  | mk last again => cases again <;> exact ⟨_, rfl⟩

theorem finish_ok_iff :
    (d.finish state text).2 = .ok () ↔
      ∃ after, d.Takes state [text] after ∧ (d.flush after).2 = .ok () := by
  cases hw : d.write state text with
  | mk mid result =>
    cases result with
    | ok _ =>
      rw [finish, passOn_of_ok hw]
      simp only [takes_cons_iff hw, exists_takes_iff fun after => (d.flush after).2 = .ok ()]
      show (d.flush mid).2.mapError ReportFailure.csvEnd = .ok () ↔ _
      rw [mapError_eq_ok_iff, writeAll, and_iff_right rfl]
    | error f =>
      obtain ⟨last, hlast⟩ := passOn_of_error hw
      rw [finish, hlast]
      simp [not_takes_cons hw]

/-- Buffers are passed on in order, and a flush follows the last one. -/
theorem writeCsv_ok_iff (hne : texts ≠ []) :
    (d.writeCsv state texts).2 = .ok () ↔
      ∃ after, d.Takes state texts after ∧ (d.flush after).2 = .ok () := by
  induction texts generalizing state with
  | nil => exact absurd rfl hne
  | cons buffer buffers ih =>
    cases buffers with
    | nil => exact finish_ok_iff
    | cons next rest =>
      rw [writeCsv]
      cases hw : d.write state buffer with
      | mk mid result =>
        cases result with
        | ok _ =>
          rw [passOn_of_ok hw]
          simp only [takes_cons_iff hw]
          exact ih (List.cons_ne_nil next rest)
        | error f =>
          obtain ⟨last, hlast⟩ := passOn_of_error hw
          rw [hlast]
          simp [not_takes_cons hw]

/-- The pieces of a report have to be taken, and but for JSON a flush has to follow them. -/
theorem writeReport_ok_iff (format : ReportFormat) (hne : texts ≠ []) :
    (d.writeReport format state texts).2 = .ok () ↔
      ∃ after, d.Takes state texts after ∧ (format ≠ .json → (d.flush after).2 = .ok ()) := by
  cases format with
  | text => simpa [writeReport] using writeText_ok_iff
  | json => simpa [writeReport] using writeJson_ok_iff
  | csv => simpa [writeReport] using writeCsv_ok_iff hne

theorem writeAll_congr {d' : Destination σ} (h : d'.write = d.write) :
    d'.writeAll state texts = d.writeAll state texts := by
  induction texts generalizing state with
  | nil => rfl
  | cons text texts ih =>
    rw [writeAll, writeAll, h]
    cases d.write state text with
    | mk mid result =>
      cases result with
      | ok _ => exact ih
      | error f => rfl

end Destination

/-! ## Any destination -/

namespace Run

theorem exit_error_of_ne {written : Except ReportFailure Unit}
    (h : exit written ≠ .ok .success) : ∃ e, exit written = .error e := by
  cases written with
  | ok _ => exact absurd rfl h
  | error e => exact ⟨e, rfl⟩

/-- No report is empty. -/
theorem flatten_pieces_ne_nil (v : View) (s : Settings) (duration : Duration) (time : Instant) :
    (pieces v s duration time).flatten ≠ [] := by
  rw [pieces]
  cases s.output with
  | text => exact TextReport.text_ne_nil _ _ _
  | json => simp [JsonReport.pieces]
  | csv =>
    show (CsvReport.buffers _).flatten ≠ []
    rw [CsvReport.flatten_buffers, CsvReport.text, CsvReport.records, Csv.document]
    exact List.append_ne_nil_of_left_ne_nil (by decide) _

end Run

namespace Destination

variable {σ : Type} (d : Destination σ) (v : View) (s : Settings) (duration : Duration)
  (time : Instant) (state : σ)

/-- A run goes as its report goes. -/
theorem perform_ok_iff :
    (d.perform v s duration time state).2 = .ok .success ↔
      ∃ after, d.Takes (d.tryAll state (Run.progress v s)) (Run.pieces v s duration time) after ∧
        (s.output ≠ .json → (d.flush after).2 = .ok ()) := by
  have hne : Run.pieces v s duration time ≠ [] := by
    intro hnil
    exact Run.flatten_pieces_ne_nil v s duration time (by rw [hnil]; rfl)
  rw [← writeReport_ok_iff s.output hne]
  exact Run.exit_eq_success_iff _

/-- A run that does not succeed fails with an error. -/
theorem perform_error_of_ne (h : (d.perform v s duration time state).2 ≠ .ok .success) :
    ∃ e, (d.perform v s duration time state).2 = .error e :=
  Run.exit_error_of_ne h

/-- JSON goes the same way wherever texts are answered the same. -/
theorem perform_json_congr (hjson : s.output = .json) {d' : Destination σ}
    (h : d'.write = d.write) :
    d'.perform v s duration time state = d.perform v s duration time state := by
  rw [perform, perform, Run.progress, hjson]
  simp only [tryAll, writeReport, writeJson, writeAll_congr h]

end Destination

/-! ## Sinks -/

namespace Run

variable (v : View) (s : Settings) (duration : Duration) (time : Instant)

/-- What a sink takes is what it has room for. -/
theorem exists_sink_takes_iff (sink : Sink) (texts : List Bytes) (format : ReportFormat) :
    (∃ after, Sink.destination.Takes sink texts after ∧
        (format ≠ .json → (Sink.destination.flush after).2 = .ok ())) ↔
      sink.room.Fits texts.flatten ∧ (format ≠ .json → sink.failsFlush = false) := by
  have hwrites := sink.writeAll_writes texts
  rw [Destination.exists_takes_iff, Destination.writeAll_sink, hwrites.ok_iff,
    Sink.destination_flush]
  show _ ∧ (_ → (if (sink.writeAll texts).1.failsFlush then _ else _) = _) ↔ _
  rw [hwrites.delivers.failsFlush]
  cases sink.failsFlush <;> simp

/-- Lines arrive as far as there is room. -/
theorem tryAll_delivers (sink : Sink) (texts : List Bytes) :
    sink.Delivers texts.flatten (Sink.destination.tryAll sink texts) := by
  induction texts generalizing sink with
  | nil => exact .nil sink
  | cons text texts ih => exact (sink.write_delivers text).append (ih _)

/-- A run on a sink succeeds when all that it writes fits, and but for JSON the sink can be
flushed. -/
theorem perform_sink_ok_iff (sink : Sink) :
    (perform v s duration time sink).result = .ok .success ↔
      sink.room.Fits (output v s duration time) ∧
        (s.output ≠ .json → sink.failsFlush = false) := by
  have hrun := Sink.destination.perform_ok_iff v s duration time sink
  have hprogress := tryAll_delivers sink (progress v s)
  rw [Destination.perform_sink, exists_sink_takes_iff, hprogress.failsFlush] at hrun
  rw [hrun, output_eq, hprogress.fits_append_iff]
  refine and_congr_left fun _ => ⟨fun hfits => ⟨?_, hfits⟩, And.right⟩
  -- a sink that has cut the progress is full, and the report is not empty
  refine Decidable.byContradiction fun hcut => ?_
  exact hprogress.not_fits_of_cut hcut (flatten_pieces_ne_nil v s duration time) hfits

/-- All that a run writes has arrived when it succeeds. -/
theorem received_of_success {sink : Sink}
    (h : (perform v s duration time sink).result = .ok .success) :
    (perform v s duration time sink).sink.received =
      sink.received ++ output v s duration time := by
  obtain ⟨hfits, hflush⟩ := (perform_sink_ok_iff v s duration time sink).mp h
  have hpart : sink.room.part (output v s duration time) = output v s duration time := hfits
  have hdelivers : sink.Delivers (output v s duration time)
      (perform v s duration time sink).sink := by
    by_cases hjson : s.output = .json
    · rw [perform, output, hjson]
      exact (JsonReport.write_writes sink true _ _ _).delivers
    · obtain ⟨_, hwrites, _⟩ := perform_writes v s duration time (hflush hjson)
      exact hwrites.delivers
  rw [hdelivers.received, hpart]

/-- A run succeeds exactly when each piece of its report is taken and, but for JSON, a flush behind
the last piece succeeds; where a flush never does, only JSON can end well. JSON asks for no flush,
so nothing about its run depends on what a flush would bring. On a sink all that the run writes has
arrived then. -/
theorem success_iff_taken :
    (∀ {σ : Type} (d : Destination σ) (state : σ),
      ((d.perform v s duration time state).2 = .ok .success ↔
        ∃ after, d.Takes (d.tryAll state (progress v s)) (pieces v s duration time) after ∧
          (s.output ≠ .json → (d.flush after).2 = .ok ())) ∧
      (s.output ≠ .json → (∀ state, (d.flush state).2 ≠ .ok ()) →
        ∃ e, (d.perform v s duration time state).2 = .error e) ∧
      (s.output = .json → ∀ d' : Destination σ, d'.write = d.write →
        d'.perform v s duration time state = d.perform v s duration time state)) ∧
    output v s duration time = (progress v s).flatten ++ (pieces v s duration time).flatten ∧
    ∀ sink : Sink,
      Sink.destination.perform v s duration time sink =
        ((perform v s duration time sink).sink, (perform v s duration time sink).result) ∧
      ((perform v s duration time sink).result = .ok .success ↔
        sink.room.Fits (output v s duration time) ∧
          (s.output ≠ .json → sink.failsFlush = false)) ∧
      ((perform v s duration time sink).result = .ok .success →
        (perform v s duration time sink).sink.received =
          sink.received ++ output v s duration time) := by
  refine ⟨?destinations, output_eq v s duration time, ?sinks⟩
  case destinations =>
    intro σ d state
    have hsuccess := d.perform_ok_iff v s duration time state
    refine ⟨hsuccess, ?_, fun hjson d' => d.perform_json_congr v s duration time state hjson⟩
    intro hformat hfails
    refine d.perform_error_of_ne v s duration time state fun hok => ?_
    obtain ⟨after, _, hflush⟩ := hsuccess.mp hok
    exact hfails after (hflush hformat)
  case sinks =>
    intro sink
    exact ⟨Destination.perform_sink v s duration time sink,
      perform_sink_ok_iff v s duration time sink, received_of_success v s duration time⟩

/-- A working folder without entries. -/
def bareFolder : View where
  tree := .empty
  home := []
  privileged := false
  account := none

/-- What takes all that a sink takes, but can never be flushed. -/
def neverFlushed : Destination Sink :=
  ⟨Sink.write, fun sink => (sink, .error .flush)⟩

/-- Of a destination that can never be flushed, comma-separated text tells and JSON does not. -/
theorem success_iff_taken_neverFlushed :
    let csv : Settings := { Settings.initial with output := .csv }
    let json : Settings := { Settings.initial with output := .json }
    (csv.output ≠ .json ∧ (∀ sink, (neverFlushed.flush sink).2 ≠ .ok ()) ∧
      ∃ e, (neverFlushed.perform bareFolder csv ⟨0, 0⟩ ⟨0, 0⟩ .unlimited).2 = .error e) ∧
    (json.output = .json ∧ Sink.destination.write = neverFlushed.write ∧
      Sink.destination.perform bareFolder json ⟨0, 0⟩ ⟨0, 0⟩ .unlimited =
        neverFlushed.perform bareFolder json ⟨0, 0⟩ ⟨0, 0⟩ .unlimited) ∧
    (perform bareFolder json ⟨0, 0⟩ ⟨0, 0⟩ .unlimited).result = .ok .success ∧
      (perform bareFolder json ⟨0, 0⟩ ⟨0, 0⟩ .unlimited).sink.received =
        output bareFolder json ⟨0, 0⟩ ⟨0, 0⟩ := by
  intro csv json
  have hformat : csv.output ≠ .json := by decide
  have hnever : ∀ sink, (neverFlushed.flush sink).2 ≠ .ok () := by
    intro sink hflush
    cases hflush
  obtain ⟨hcsv, -⟩ := success_iff_taken bareFolder csv ⟨0, 0⟩ ⟨0, 0⟩
  obtain ⟨hjson, -, hsink⟩ := success_iff_taken bareFolder json ⟨0, 0⟩ ⟨0, 0⟩
  obtain ⟨-, hfits, hreceived⟩ := hsink .unlimited
  have hsuccess := hfits.mpr ⟨Room.fits_unlimited _, fun _ => rfl⟩
  exact ⟨⟨hformat, hnever, (hcsv neverFlushed .unlimited).2.1 hformat hnever⟩,
    ⟨rfl, rfl, (hjson neverFlushed .unlimited).2.2 rfl Sink.destination rfl⟩,
    hsuccess, hreceived hsuccess⟩

/-- JSON for a sink that cannot be flushed: the run succeeds all the same. -/
theorem json_success_unflushed :
    (Sink.new .unlimited true).flush = .error .flush ∧
      (perform bareFolder { Settings.initial with output := .json } ⟨0, 0⟩ ⟨0, 0⟩
        (.new .unlimited true)).result = .ok .success := by
  refine ⟨rfl, (perform_sink_ok_iff _ _ _ _ _).mpr ⟨Room.fits_unlimited _, ?_⟩⟩
  intro hformat
  exact absurd rfl hformat

end Run

end TwinFiles

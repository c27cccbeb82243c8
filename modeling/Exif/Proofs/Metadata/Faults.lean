import Exif.Image
import Exif.Proofs.Metadata.Findings
import Exif.Proofs.Results

/-! Collecting the values of a picture ends at the first fault. All that can go wrong is listed here in
the order in which it is met, and apart from it all that is read: the picture comes to its first fault,
or else to the readings. -/

namespace Exif

def Finding.reading? (f : Finding) : Option (Int × TagValue) :=
  match f.2 with
  | .ok (some v) => some (f.1, v)
  | _ => none

/-! ## Findings -/

namespace Collected

theorem foldlM_note (fs : List Finding) (m : Collected) :
    fs.foldlM note m = firstError (fs.flatMap fun f => errors f.2)
      ((fs.filterMap Finding.reading?).foldl (fun m p => m.insert p.1 p.2) m) := by
  induction fs generalizing m with
  | nil => rfl
  | cons f fs ih =>
    obtain ⟨id, r⟩ := f
    rw [List.foldlM_cons]
    cases r with
    | error e => rfl
    | ok v =>
      cases v with
      | none => exact ih m
      | some v => exact ih (m.insert id v)

theorem ofFindings_eq (fs : List Finding) :
    ofFindings fs = firstError (fs.flatMap fun f => errors f.2)
      (.ofList (fs.filterMap Finding.reading?)) := foldlM_note fs .empty

end Collected

/-! ## Directories -/

namespace Directories

/-- The entries of the directories; those of a directory that fails are not there. -/
def lists (d : Directories) : DirectoryLists :=
  ⟨d.image, d.exif.toOption.getD [], d.thumbnail.toOption.getD []⟩

def faults (d : Directories) : List DecoderError :=
  if d.image.isEmpty then [] else errors d.exif ++ errors d.thumbnail

def findings (d : Directories) : List Finding :=
  if d.image.isEmpty then [] else d.lists.findings

theorem collect_eq (d : Directories) :
    d.collect = firstError (d.faults.map .decoder ++
        (d.findings.flatMap fun f => errors f.2).map .conversion)
      (.ofList (d.findings.filterMap Finding.reading?)) := by
  unfold collect faults findings
  split
  · rfl
  · rw [List.map_append, ← errors_mapError, ← errors_mapError, List.append_assoc]
    refine bind_eq_firstError fun exif he => bind_eq_firstError fun thumbnail ht => ?_
    rw [DirectoryLists.collect_eq, Collected.ofFindings_eq, mapError_firstError, lists,
      mapError_eq_ok.1 he, mapError_eq_ok.1 ht]
    rfl

theorem mem_findings {d : Directories} {f : Finding} (h : f ∈ d.findings) :
    ∃ es, (es = d.image ∨ d.exif = .ok es ∨ d.thumbnail = .ok es) ∧
      ∃ e ∈ es, f = DirectoryLists.finding e := by
  unfold findings at h
  split at h
  · exact nomatch h
  · obtain ⟨e, he, rfl⟩ := List.mem_map.1 h
    obtain ⟨es, hes, hsource⟩ := DirectoryLists.mem_kept he
    refine ⟨es, ?_, e, hes, rfl⟩
    -- a directory that fails has no entries
    have hgiven {r : Except DecoderError (List DirectoryEntry)} (hr : es = r.toOption.getD []) :
        r = .ok es := by
      cases r with
      | error _ => rw [hr] at hes; exact nomatch hes
      | ok es' => exact congrArg Except.ok hr.symm
    exact hsource.imp id (Or.imp hgiven hgiven)

end Directories

/-! ## Pictures -/

namespace Image

/-- The faults of a decoder with a picture: it gives nothing, or fails when asked for a directory. -/
def decoderFaults (i : Image) : Decoder → List DecoderError
  | .listing => errors i.listing
  | .directories =>
    match i.directories with
    | .error e => [e]
    | .ok none => []
    | .ok (some d) => d.faults

def findings (i : Image) : Decoder → List Finding
  | .listing => Listing.findings (i.listing.toOption.getD [])
  | .directories =>
    match i.directories with
    | .ok (some d) => d.findings
    | _ => []

/-- All that goes wrong in reading a picture, in the order in which it is met. -/
def faults (i : Image) (d : Decoder) : List CollectionError :=
  (i.decoderFaults d).map .decoder ++
    ((i.findings d).flatMap fun f => errors f.2).map .conversion

def readings (i : Image) (d : Decoder) : List (Int × TagValue) :=
  (i.findings d).filterMap Finding.reading?

theorem collect_eq (i : Image) (d : Decoder) :
    i.collect d = firstError (i.faults d) (.ofList (i.readings d)) := by
  unfold faults readings
  cases d with
  | listing =>
    unfold collect decoderFaults findings
    rw [← errors_mapError]
    refine bind_eq_firstError fun l hl => ?_
    rw [Listing.collect_eq, Collected.ofFindings_eq, mapError_firstError, mapError_eq_ok.1 hl]
    rfl
  | directories =>
    unfold collect decoderFaults findings
    match i.directories with
    | .error e => rfl
    | .ok none => rfl
    | .ok (some d) => exact d.collect_eq

theorem ofFindings_of_collect {i : Image} {d : Decoder} {m : Collected} (h : i.collect d = .ok m) :
    Collected.ofFindings (i.findings d) = .ok m := by
  rw [collect_eq] at h
  obtain ⟨hnone, hm⟩ := firstError_eq_ok.1 h
  rw [faults, List.append_eq_nil_iff, List.map_eq_nil_iff, List.map_eq_nil_iff] at hnone
  rw [Collected.ofFindings_eq, hnone.2, ← hm]
  rfl

end Image

end Exif

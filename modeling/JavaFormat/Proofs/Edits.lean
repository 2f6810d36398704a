import JavaFormat.Edit
import JavaFormat.Proofs.Disk.Lookup
import JavaFormat.Proofs.Sequence

/-!
# Edits of a disk

An edit of a source on a disk is made of what its file holds (`ofFile_eq_ok_iff`), and the pending
edits are those of the sources that change (`pending_eq_ok_iff`).  Saving edits changes nothing but
the files they are about, each of which holds the text of one of its edits afterwards
(`saveAll_spec`); where it fails, the edits before a certain one are saved and the others are not
(`saveAll_error`).
-/

set_option autoImplicit false

namespace JavaFormat

namespace Disk

variable {disk : Disk}

/-- Writing to a file leaves directories, links and all other files as they are. -/
theorem setBytes_extends (disk : Disk) (l : Location) (bytes : List UInt8) :
    Extends disk (disk.setBytes l bytes) := by
  refine ⟨rfl, ?_, ?_, ?_, ?_⟩
  · intro k hk
    rw [get?_setBytes]
    split
    · rw [hk]; rfl
    · exact hk
  · intro k target hk
    rw [get?_setBytes]
    split
    · rw [hk]; rfl
    · exact hk
  · intro k old hk
    rw [get?_setBytes, hk]
    split
    · exact ⟨bytes, rfl⟩
    · exact ⟨old, rfl⟩
  · intro k target hk
    rw [get?_setBytes, hk]
    split <;> exact nofun

end Disk

namespace Edit

open Disk

variable {disk : Disk} {style : Style} {charset : Charset}

/-! ## Making edits -/

theorem ofFile_eq_ok_iff {path : Path} {edit : Edit} :
    ofFile disk style charset path = .ok edit ↔
      ∃ bytes text, disk.readBytes path = .ok bytes ∧ charset.decode? bytes = some text ∧
        edit = ⟨path, text, Source.format style text, charset⟩ := by
  unfold ofFile
  simp only [bind, except_bind_eq_ok, except_mapError_eq_ok]
  constructor
  · rintro ⟨bytes, hread, h⟩
    cases hdecode : charset.decode? bytes with
    | none =>
      rw [hdecode] at h
      cases h
    | some text =>
      rw [hdecode] at h
      exact ⟨bytes, text, hread, hdecode, (Except.ok.inj h).symm⟩
  · rintro ⟨bytes, text, hread, hdecode, rfl⟩
    refine ⟨bytes, hread, ?_⟩
    rw [hdecode]
    rfl

/-- A file that holds the same bytes gets the same edit, but for its path. -/
theorem ofFile_of_readBytes_eq {later : Disk} {path other : Path} {edit : Edit}
    (h : later.readBytes other = disk.readBytes path)
    (hof : ofFile disk style charset path = .ok edit) :
    ofFile later style charset other = .ok { edit with path := other } := by
  obtain ⟨bytes, text, hread, hdecode, rfl⟩ := ofFile_eq_ok_iff.1 hof
  exact ofFile_eq_ok_iff.2 ⟨bytes, text, h.trans hread, hdecode, rfl⟩

theorem pending_eq_ok_iff {files : List Path} {edits : List Edit} :
    pending disk style charset files = .ok edits ↔
      ∃ all, files.mapM (ofFile disk style charset) = .ok all ∧ all.filter hasEdits = edits :=
  except_map_eq_ok

/-- Edits are made in the order of their files. -/
theorem map_path_of_mapM {files : List Path} {all : List Edit}
    (h : files.mapM (ofFile disk style charset) = .ok all) : all.map path = files := by
  induction files generalizing all with
  | nil =>
    obtain rfl := mapM_nil_eq_ok.1 h
    rfl
  | cons file files ih =>
    obtain ⟨edit, rest, hedit, hrest, rfl⟩ := mapM_cons_eq_ok.1 h
    obtain ⟨bytes, text, -, -, rfl⟩ := ofFile_eq_ok_iff.1 hedit
    rw [List.map_cons, ih hrest]

/-- A pending edit is the one that is made of the file at its path. -/
theorem ofFile_of_mem_pending {files : List Path} {edits : List Edit}
    (h : pending disk style charset files = .ok edits) {edit : Edit} (hedit : edit ∈ edits) :
    ofFile disk style charset edit.path = .ok edit := by
  obtain ⟨all, hall, rfl⟩ := pending_eq_ok_iff.1 h
  obtain ⟨path, -, hof⟩ := exists_of_mem_mapM hall (List.mem_filter.1 hedit).1
  obtain ⟨bytes, text, -, -, rfl⟩ := ofFile_eq_ok_iff.1 hof
  exact hof

theorem path_mem_of_mem_pending {files : List Path} {edits : List Edit}
    (h : pending disk style charset files = .ok edits) {edit : Edit} (hedit : edit ∈ edits) :
    edit.path ∈ files := by
  obtain ⟨all, hall, rfl⟩ := pending_eq_ok_iff.1 h
  rw [← map_path_of_mapM hall]
  exact List.mem_map_of_mem (List.mem_filter.1 hedit).1

/-- Every pending edit is of a file. -/
theorem isFileAt_of_mem_pending {files : List Path} {edits : List Edit}
    (h : pending disk style charset files = .ok edits) {edit : Edit} (hedit : edit ∈ edits) :
    ∃ l, disk.IsFileAt edit.path l := by
  obtain ⟨bytes, text, hread, -, -⟩ := ofFile_eq_ok_iff.1 (ofFile_of_mem_pending h hedit)
  obtain ⟨l, hres⟩ := readBytes_eq_ok_iff.1 hread
  exact ⟨l, bytes, hres⟩

/-- **Edits of one file are the same**, but for the paths that lead to it. -/
theorem eq_of_isFileAt (hwf : disk.WellFormed) {edit other : Edit} {l : Location}
    (hof : ofFile disk style charset edit.path = .ok edit)
    (hof' : ofFile disk style charset other.path = .ok other) (hl : disk.IsFileAt edit.path l)
    (hl' : disk.IsFileAt other.path l) : edit = { other with path := edit.path } := by
  obtain ⟨bytes, text, hread, hdecode, hedit⟩ := ofFile_eq_ok_iff.1 hof
  obtain ⟨bytes', text', hread', hdecode', hother⟩ := ofFile_eq_ok_iff.1 hof'
  obtain ⟨old, hold⟩ := hl.get? hwf
  have hbytes := (hl.readBytes hwf hold).symm.trans hread
  have hbytes' := (hl'.readBytes hwf hold).symm.trans hread'
  obtain rfl : bytes = bytes' := (Except.ok.inj hbytes).symm.trans (Except.ok.inj hbytes')
  obtain rfl : text = text' := Option.some.inj (hdecode.symm.trans hdecode')
  rw [hother, hedit]

/-- Files that are read as before have the edits that they had. -/
theorem pending_congr {later : Disk} {files : List Path}
    (h : ∀ p ∈ files, later.readBytes p = disk.readBytes p) :
    pending later style charset files = pending disk style charset files := by
  have hof : ∀ p ∈ files, ofFile later style charset p = ofFile disk style charset p := by
    intro p hp
    rw [ofFile, ofFile, h p hp]
  rw [pending, pending, mapM_congr hof]

/-- Nothing is pending where no source changes. -/
theorem pending_eq_nil {files : List Path}
    (h : ∀ p ∈ files, ∃ edit, ofFile disk style charset p = .ok edit ∧ edit.hasEdits = false) :
    pending disk style charset files = .ok [] := by
  obtain ⟨all, hall, hnone⟩ := exists_mapM_eq_ok h
  refine pending_eq_ok_iff.2 ⟨all, hall, List.filter_eq_nil_iff.2 fun edit hedit => ?_⟩
  simp [hnone edit hedit]

/-! ## Saving edits -/

/-- An edit of a file that can be encoded is saved to that file, unless that is denied. -/
theorem save_of_isFileAt {edit : Edit} {l : Location} {bytes : List UInt8}
    (hfile : disk.IsFileAt edit.path l)
    (hencode : edit.charset.encode? edit.formatted = some bytes) :
    edit.save disk = ((disk.unlessDenied l (disk.setBytes l bytes)).1.mapError
      (Error.unwritable edit.path), (disk.unlessDenied l (disk.setBytes l bytes)).2) := by
  rw [save, hencode, ← hfile.writeBytes bytes]

theorem save_eq_ok {edit : Edit} {l : Location} {bytes : List UInt8}
    (hfile : disk.IsFileAt edit.path l)
    (hencode : edit.charset.encode? edit.formatted = some bytes)
    (hdenial : disk.denial? l = none) : edit.save disk = (.ok (), disk.setBytes l bytes) := by
  rw [save_of_isFileAt hfile hencode, unlessDenied_of_none hdenial]
  rfl

theorem save_denied {edit : Edit} {l : Location} {bytes : List UInt8} {denial : Denial}
    (hfile : disk.IsFileAt edit.path l)
    (hencode : edit.charset.encode? edit.formatted = some bytes)
    (hdenial : disk.denial? l = some denial) :
    edit.save disk = (.error (.unwritable edit.path (.denied denial)), disk) := by
  rw [save_of_isFileAt hfile hencode, unlessDenied_of_some hdenial]
  rfl

theorem saveAll_cons {edit : Edit} {edits : List Edit} {mid : Disk}
    (h : edit.save disk = (.ok (), mid)) : saveAll (edit :: edits) disk = saveAll edits mid := by
  rw [saveAll, h]

/-- Where edits are saved, the first one was encoded and written to its file. -/
theorem saveAll_cons_eq_ok {edit : Edit} {edits : List Edit} {l : Location} {after : Disk}
    (hfile : disk.IsFileAt edit.path l) (h : saveAll (edit :: edits) disk = (.ok (), after)) :
    ∃ bytes, edit.charset.encode? edit.formatted = some bytes ∧
      saveAll edits (disk.setBytes l bytes) = (.ok (), after) := by
  cases hencode : edit.charset.encode? edit.formatted with
  | none => simp [saveAll, save, hencode] at h
  | some bytes =>
    cases hdenial : disk.denial? l with
    | none =>
      rw [saveAll_cons (save_eq_ok hfile hencode hdenial)] at h
      exact ⟨bytes, rfl, h⟩
    | some denial =>
      rw [saveAll, save_denied hfile hencode hdenial] at h
      cases h

/-- **What saving edits does**: every location holds what it held before, or the text of an edit of
the file there. -/
theorem saveAll_spec {base : Disk} (hwf : base.WellFormed) {edits : List Edit}
    {current after : Disk} (hext : Extends base current)
    (hedits : ∀ edit ∈ edits, ∃ l, base.IsFileAt edit.path l)
    (h : saveAll edits current = (.ok (), after)) :
    Extends current after ∧ ∀ l,
      (after.get? l = current.get? l ∧ ∀ edit ∈ edits, ¬base.IsFileAt edit.path l) ∨
        ∃ edit ∈ edits, base.IsFileAt edit.path l ∧ ∃ bytes,
          edit.charset.encode? edit.formatted = some bytes ∧ after.get? l = some (.file bytes) := by
  induction edits generalizing current with
  | nil =>
    cases h
    exact ⟨.refl _, fun l => Or.inl ⟨rfl, nofun⟩⟩
  | cons edit edits ih =>
    obtain ⟨m, hm⟩ := hedits edit List.mem_cons_self
    obtain ⟨bytes, hencode, h⟩ := saveAll_cons_eq_ok (hm.persists hext hwf) h
    have hstep := setBytes_extends current m bytes
    obtain ⟨hrest, hafter⟩ := ih (hext.trans hstep)
      (fun e he => hedits e (List.mem_cons_of_mem _ he)) h
    refine ⟨hstep.trans hrest, fun l => ?_⟩
    rcases hafter l with ⟨hsame, hnone⟩ | ⟨e, he, hel, hbytes⟩
    · by_cases hl : l = m
      · subst hl
        obtain ⟨old, hold⟩ := hm.get? hwf
        obtain ⟨old', hold'⟩ := hext.file l old hold
        refine Or.inr ⟨edit, List.mem_cons_self, hm, bytes, hencode, ?_⟩
        rw [hsame, get?_setBytes, if_pos rfl, hold']
        rfl
      · refine Or.inl ⟨?_, fun e he => ?_⟩
        · rw [hsame, get?_setBytes, if_neg hl]
        · rcases List.mem_cons.1 he with rfl | he
          · exact fun hel => hl (hel.unique hm)
          · exact hnone e he
    · exact Or.inr ⟨e, List.mem_cons_of_mem _ he, hel, hbytes⟩

/-- Saving edits keeps a disk well formed. -/
theorem saveAll_wellFormed {base current after : Disk} {edits : List Edit} (hwf : base.WellFormed)
    (hext : Extends base current) (hwfc : current.WellFormed)
    (hedits : ∀ edit ∈ edits, ∃ l, base.IsFileAt edit.path l)
    (h : saveAll edits current = (.ok (), after)) : after.WellFormed := by
  obtain ⟨hafter, hspec⟩ := saveAll_spec hwf hext hedits h
  have hsome : ∀ l e, after.get? l = some e → ∃ e', current.get? l = some e' := by
    intro l e hl
    rcases hspec l with ⟨hsame, -⟩ | ⟨edit, -, hfile, -⟩
    · exact ⟨e, hsame ▸ hl⟩
    · obtain ⟨old, hold⟩ := hfile.get? hwf
      obtain ⟨old', hold'⟩ := hext.file l old hold
      exact ⟨_, hold'⟩
  refine ⟨hafter.home ▸ hafter.dir _ hwfc.home, fun l name e hl => ?_, fun l target hl => ?_⟩
  · obtain ⟨e', he'⟩ := hsome _ e hl
    exact hwfc.name l name e' he'
  · rcases hspec l with ⟨hsame, -⟩ | ⟨edit, -, -, bytes, -, hbytes⟩
    · exact hwfc.target l target (hsame ▸ hl)
    · rw [hbytes] at hl
      cases hl

end Edit

end JavaFormat

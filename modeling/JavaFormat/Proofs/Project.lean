import JavaFormat.Project
import JavaFormat.Proofs.Sources

/-!
# Plans on a later disk

What a plan asks for is found again on a later disk: the config file in use says the same if its
bytes are the same, and the source directories are the old ones with new ones among them.

* `findConfig_eq`: the config that counts is that of the file in use, if there is one.
* `findConfig_later`, `findSources_later`: the parts of a plan, found again.
-/

set_option autoImplicit false

namespace JavaFormat

namespace Project

open Disk

variable {disk later : Disk} {directory : Path}

/-! ## Config files -/

/-- The config file in use: the one that is named, or else the one in the project directory, if
there is one. -/
def configInUse (disk : Disk) (directory : Path) (named : Option Path) : Option Path :=
  match named with
  | some path => some path
  | none =>
    let path := directory.join configName
    if disk.isFile path then some path else none

/-- The config that counts is what the config file in use says, if there is one. -/
theorem findConfig_eq (disk : Disk) (directory : Path) (named : Option Path) :
    findConfig disk directory named =
      match configInUse disk directory named with
      | some path => readConfig disk path
      | none => .ok Config.empty := by
  unfold findConfig configInUse
  cases named with
  | some path => rfl
  | none =>
    simp only
    split <;> rfl

theorem readConfig_congr {path : Path} (h : later.readBytes path = disk.readBytes path) :
    readConfig later path = readConfig disk path := by
  rw [readConfig, readConfig, readText, readText, h]

/-- An empty config file says nothing. -/
theorem readConfig_of_empty {path : Path} (h : disk.readBytes path = .ok []) :
    readConfig disk path = .ok Config.empty := by
  have htext : disk.readText path = .ok "" := by
    rw [readText, h]
    rfl
  rw [readConfig, htext]
  rfl

theorem readBytes_of_readConfig {path : Path} {config : Config}
    (h : readConfig disk path = .ok config) : ∃ bytes, disk.readBytes path = .ok bytes := by
  unfold readConfig readText at h
  cases hread : disk.readBytes path with
  | error e =>
    rw [hread] at h
    cases h
  | ok bytes => exact ⟨bytes, rfl⟩

/-- A config file that is still the same says what it said. -/
theorem readConfig_later (hext : Extends disk later) (hwf : disk.WellFormed)
    (hwfl : later.WellFormed) {path : Path} {config : Config}
    (hsame : ∀ l, disk.IsFileAt path l → later.get? l = disk.get? l)
    (h : readConfig disk path = .ok config) : readConfig later path = .ok config := by
  obtain ⟨bytes, hbytes⟩ := readBytes_of_readConfig h
  obtain ⟨l, hres⟩ := readBytes_eq_ok_iff.1 hbytes
  have hfile : disk.IsFileAt path l := ⟨bytes, hres⟩
  have hl : later.get? l = some (.file bytes) := by
    rw [hsame l hfile]
    exact resolve_entry hwf hres
  rw [← h]
  refine readConfig_congr ?_
  rw [hbytes]
  exact (hfile.persists hext hwf).readBytes hwfl hl

theorem isName_configName : Path.IsName configName := by
  refine ⟨?_, ?_, ?_, ?_, ?_⟩ <;> decide

/-- **The config that counts stays the same**, if the config file in use does: a new config file in
the project directory is empty and says nothing. -/
theorem findConfig_later (hext : Extends disk later) (hwf : disk.WellFormed)
    (hwfl : later.WellFormed) (hlinks : LinksResolve disk) (hup : Step.up ∉ stepsOf directory)
    (hnew : ∀ l bytes, disk.get? l = none → later.get? l = some (.file bytes) → bytes = [])
    {named : Option Path} {config : Config}
    (hsame : ∀ path, configInUse disk directory named = some path →
      ∀ l, disk.IsFileAt path l → later.get? l = disk.get? l)
    (h : findConfig disk directory named = .ok config) :
    findConfig later directory named = .ok config := by
  cases named with
  | some path => exact readConfig_later hext hwf hwfl (hsame path rfl) h
  | none =>
    unfold findConfig at h ⊢
    simp only at h ⊢
    split at h
    · rename_i hfile
      obtain ⟨l, hl⟩ := isFile_iff.1 hfile
      rw [if_pos (isFile_iff.2 ⟨l, hl.persists hext hwf⟩)]
      refine readConfig_later hext hwf hwfl (hsame _ ?_) h
      rw [configInUse, if_pos hfile]
    · rename_i hfile
      obtain rfl := Except.ok.inj h
      split
      · rename_i hlater
        obtain ⟨l, hl⟩ := isFile_iff.1 hlater
        have hmiss : IsMiss (disk.resolve .followed (directory.join configName)) := by
          refine Classical.byContradiction fun hmiss => hfile ?_
          rw [← (kind_eq_of_not_isMiss hext hwf hmiss).1]
          exact hlater
        obtain ⟨bytes, hres⟩ := hl
        have hold := get?_eq_none_of_resolve hext hwf hlinks
          (up_not_mem_stepsOf_join isName_configName.isAbsolute hup (by decide))
          (isName_configName.endsWithSlash_join directory) hmiss hres
        obtain rfl := hnew l bytes hold (resolve_entry hwfl hres)
        exact readConfig_of_empty (readBytes_eq_ok_iff.2 ⟨l, hres⟩)
      · rfl

/-! ## Source directories -/

/-- A usual source directory is found from the project directory downwards. -/
theorem usualSources_spec {tail : Path} (h : tail ∈ usualSources) :
    tail.isAbsolute = false ∧ tail.toList ≠ [] ∧ tail.endsWithSlash = false ∧
      Step.up ∉ stepsOf tail := by
  revert tail
  decide

/-- A usual source directory that was not there is new. -/
theorem usual_isDir_new (hext : Extends disk later) (hwf : disk.WellFormed)
    (hlinks : LinksResolve disk) (hup : Step.up ∉ stepsOf directory) {tail : Path}
    (htail : tail ∈ usualSources) (hold : disk.isDir (directory.join tail) = false)
    (hlater : later.isDir (directory.join tail) = true) :
    ∃ l, later.IsDirAt (directory.join tail) l ∧ disk.get? l = none := by
  obtain ⟨habs, hne, hslash, hdown⟩ := usualSources_spec htail
  have hmiss : IsMiss (disk.resolve .followed (directory.join tail)) := by
    refine Classical.byContradiction fun hmiss => ?_
    rw [(kind_eq_of_not_isMiss hext hwf hmiss).2, hold] at hlater
    cases hlater
  obtain ⟨l, slash, hres⟩ := isDir_iff.1 hlater
  refine ⟨l, ⟨slash, hres⟩, get?_eq_none_of_resolve hext hwf hlinks
    (up_not_mem_stepsOf_join habs hup hdown) ?_ hmiss hres⟩
  rw [Path.endsWithSlash_join directory habs hne, hslash]

/-- **The source directories on a later disk** are those from before, and new ones. -/
theorem findSources_later (hext : Extends disk later) (hwf : disk.WellFormed)
    (hlinks : LinksResolve disk) (hup : Step.up ∉ stepsOf directory)
    {given roots : List Path} (h : findSources disk directory given = .ok roots)
    (hroots : ∀ root ∈ roots, disk.isDir root = true) :
    ∃ all, findSources later directory given = .ok all ∧ all.filter disk.isDir = roots ∧
      ∀ root ∈ all, disk.isDir root = false → ∃ l, later.IsDirAt root l ∧ disk.get? l = none := by
  unfold findSources at h ⊢
  split at h
  · rename_i hgiven
    rw [if_pos hgiven]
    simp only at h
    split at h
    · cases h
    · rename_i hsome
      obtain rfl := Except.ok.inj h
      have hfilter : ((usualSources.map directory.join).filter later.isDir).filter disk.isDir
          = (usualSources.map directory.join).filter disk.isDir := by
        rw [List.filter_filter]
        refine List.filter_congr fun root _ => ?_
        cases hold : disk.isDir root with
        | false => rfl
        | true =>
          obtain ⟨l, hl⟩ := isDir_iff.1 hold
          exact isDir_iff.2 ⟨l, hl.persists hext hwf⟩
      refine ⟨_, if_neg fun hnone => hsome ?_, hfilter, fun root hroot hold => ?_⟩
      · rw [← hfilter, List.isEmpty_iff.1 hnone]
        rfl
      · obtain ⟨hmem, hlater⟩ := List.mem_filter.1 hroot
        obtain ⟨tail, htail, rfl⟩ := List.mem_map.1 hmem
        exact usual_isDir_new hext hwf hlinks hup htail hold hlater
  · rename_i hgiven
    obtain rfl := Except.ok.inj h
    refine ⟨given, if_neg hgiven, List.filter_eq_self.2 hroots, fun root hroot hold => ?_⟩
    rw [hroots root hroot] at hold
    cases hold

end Project

end JavaFormat

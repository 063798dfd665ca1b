import JmsNaming.Proofs.Settings.Merge
import JmsNaming.Proofs.Toml.Keys
import JmsNaming.Proofs.Value.Decidable
import JmsNaming.Proofs.Yaml.Keys
import JmsNaming.Settings.Files

/-
Loading settings from a file and the overlays of profiles: which files are loaded, and which leaves of which
file the settings have. A leaf of a file is there unless a file that is loaded later covers its place.
-/
namespace JmsNaming

/-! ## Files -/

/-- A file that holds a tree holds no map with a key twice. -/
theorem distinct_loadTree {p : FilePath} {content : Option String} {t : Table} (h : loadTree p content = .ok t) :
    (Value.map t).Distinct := by
  cases content with
  | none => cases h
  | some text =>
    unfold loadTree at h
    dsimp -zeta -zetaHave only at h
    extract_lets atRoot at h
    -- The tree is the map at the root of the document, or nothing.
    have hroot : ∀ {v : Value}, v.Distinct → atRoot v = .ok t → (Value.map t).Distinct := by
      intro v hv h
      dsimp only [atRoot] at h
      split at h
      · cases h
        exact hv
      · split at h
        · cases h
          exact .empty
        · cases h
    split at h
    · obtain ⟨v, hdoc, h⟩ := bind_eq_ok_iff.1 h
      exact hroot (Toml.distinct_document (mapError_eq_ok_iff.1 hdoc)) h
    · obtain ⟨v, hdoc, h⟩ := bind_eq_ok_iff.1 h
      exact hroot (Yaml.distinct_document (mapError_eq_ok_iff.1 hdoc)) h

namespace Files

variable (files : Files)

/-- There is nothing at the path. -/
def Lacks (p : FilePath) : Prop :=
  files.find? p = .ok none

/-- There is a file at the path, and it holds the tree. -/
def Holds (p : FilePath) (t : Table) : Prop :=
  ∃ content, files.find? p = .ok (some content) ∧ loadTree p content = .ok t

/-- What has the name in the working directory: a directory, or the file that is given under the name. -/
def entry? (name : String) : Option (Option String) :=
  if files.isDirectory [name] then some none
  else (List.find? (fun f : String × Option String => FilePath.ofText f.1 == [name]) files).map (·.2)

/-- The tree of the file that has the name in the working directory. -/
def tree? (name : String) : Option Table :=
  (files.entry? name).bind fun content => (loadTree [name] content).toOption

variable {files}

section Name

variable {name : String} (hnull : name.contains (Char.ofNat 0) = false) (hsize : name.utf8ByteSize ≤ maxNameBytes)
  (hup : name ≠ "..")

include hnull hsize hup

theorem find?_name : files.find? [name] = .ok (files.entry? name) := by
  have htext : FilePath.text [name] = name := rfl
  have hlong : ¬maxPathBytes < name.utf8ByteSize := by
    unfold maxNameBytes at hsize
    unfold maxPathBytes
    omega
  have hdirectory : files.isDirectory [] = true := rfl
  have hlocate : files.locate [name] [] [name] = .ok (some [name]) := by
    simp [locate, hdirectory, hup, Nat.not_lt.2 hsize]
  rw [find?, htext, hnull, if_neg Bool.false_ne_true, if_neg hlong, hlocate]
  rfl

theorem holds_name {t : Table} (h : files.tree? name = some t) : files.Holds [name] t := by
  obtain ⟨content, hentry, hload⟩ := Option.bind_eq_some_iff.1 h
  exact ⟨content, by rw [find?_name hnull hsize hup, hentry], eq_ok_of_toOption hload⟩

theorem lacks_name (h : files.entry? name = none) : files.Lacks [name] := by
  rw [Lacks, find?_name hnull hsize hup, h]

end Name

variable (files) in
/-- The overlays of the profiles that have a file, in order: the source that is told for each, and its tree. -/
inductive Overlays (base : FilePath) : List String → List (String × Table) → Prop
  | nil : Overlays base [] []
  | lacks {profile : String} {profiles : List String} {layers : List (String × Table)}
    (h : files.Lacks (base.overlay profile)) (hs : Overlays base profiles layers) :
    Overlays base (profile :: profiles) layers
  | holds {profile : String} {profiles : List String} {t : Table} {layers : List (String × Table)}
    (h : files.Holds (base.overlay profile) t) (hs : Overlays base profiles layers) :
    Overlays base (profile :: profiles)
      (((base.overlay profile).text ++ " (profile: " ++ profile ++ ")", t) :: layers)

variable {base : FilePath} {profiles : List String} {layers : List (String × Table)}

theorem exists_overlays (h : ∀ profile ∈ profiles, files.Lacks (base.overlay profile) ∨
    ∃ t, files.Holds (base.overlay profile) t) : ∃ layers, files.Overlays base profiles layers := by
  induction profiles with
  | nil => exact ⟨[], .nil⟩
  | cons profile profiles ih =>
    obtain ⟨hprofile, hprofiles⟩ := List.forall_mem_cons.1 h
    obtain ⟨layers, hlayers⟩ := ih hprofiles
    rcases hprofile with hlacks | ⟨t, hholds⟩
    · exact ⟨layers, .lacks hlacks hlayers⟩
    · exact ⟨_, .holds hholds hlayers⟩

theorem Holds.unique {p : FilePath} {t u : Table} (h : files.Holds p t) (h' : files.Holds p u) : t = u := by
  obtain ⟨content, hfind, hload⟩ := h
  obtain ⟨content', hfind', hload'⟩ := h'
  cases hfind.symm.trans hfind'
  cases hload.symm.trans hload'
  rfl

theorem Lacks.not_holds {p : FilePath} {t : Table} (h : files.Lacks p) : ¬files.Holds p t := by
  rintro ⟨content, hfind, -⟩
  cases h.symm.trans hfind

/-- The files decide which overlays there are. -/
theorem Overlays.unique (h : files.Overlays base profiles layers) {layers' : List (String × Table)}
    (h' : files.Overlays base profiles layers') : layers = layers' := by
  induction h generalizing layers' with
  | nil =>
    cases h'
    rfl
  | lacks h _ ih =>
    cases h' with
    | lacks _ hs' => exact ih hs'
    | holds hholds _ => exact absurd hholds h.not_holds
  | holds h _ ih =>
    cases h' with
    | lacks hlacks _ => exact absurd h hlacks.not_holds
    | holds h' hs' => rw [h.unique h', ih hs']

theorem Holds.distinct {p : FilePath} {t : Table} (h : files.Holds p t) : (Value.map t).Distinct := by
  obtain ⟨content, -, hload⟩ := h
  exact distinct_loadTree hload

theorem Overlays.distinct (h : files.Overlays base profiles layers) :
    ∀ t ∈ layers.map Prod.snd, (Value.map t).Distinct := by
  induction h with
  | nil => simp
  | lacks _ _ ih => exact ih
  | holds h _ ih => exact List.forall_mem_cons.2 ⟨h.distinct, ih⟩

end Files

/-! ## Loading -/

namespace Settings

variable {files : Files} {base : FilePath} {profiles : List String} {layers : List (String × Table)}

/-- The overlays are merged one on top of the other, and their sources told in that order. -/
theorem addProfiles_eq (h : files.Overlays base profiles layers) (tree : Table) (sources : List String) :
    addProfiles files base tree sources profiles =
      .ok ((layers.map Prod.snd).foldl Tree.merge tree, sources ++ layers.map Prod.fst) := by
  induction h generalizing tree sources with
  | nil => simp [addProfiles]
  | lacks h _ ih =>
    rw [Files.Lacks] at h
    simp only [addProfiles, h, ih]
  | holds h _ ih =>
    obtain ⟨content, hfind, hload⟩ := h
    simp only [addProfiles, hfind, hload, ih]
    simp

theorem distinct_addProfiles {files : Files} {base : FilePath} : ∀ {profiles : List String} {tree : Table}
    {sources : List String} {r : Table × List String}, (Value.map tree).Distinct →
    addProfiles files base tree sources profiles = .ok r → (Value.map r.1).Distinct
  | [], tree, sources, r, htree, h => by
    cases h
    exact htree
  | profile :: rest, tree, sources, r, htree, h => by
    rw [addProfiles] at h
    split at h
    · cases h
    · exact distinct_addProfiles htree h
    · split at h
      · cases h
      · rename_i top htop
        have htop := distinct_loadTree htop
        exact distinct_addProfiles (Tree.distinct_merge top tree (fun e he => htop.values he) htree) h

/-- No map of loaded settings has a key twice. -/
theorem distinct_load {files : Files} {path : String} {profiles : List String} {s : Settings}
    (h : load files path profiles = .ok s) : s.root.Distinct := by
  unfold load at h
  dsimp only at h
  split at h
  · cases h
  · cases h
    exact .empty
  · split at h
    · cases h
    · rename_i base hbase
      obtain ⟨r, hr, rfl⟩ := map_eq_ok_iff.1 h
      have hbase := distinct_loadTree hbase
      exact distinct_addProfiles (Tree.distinct_merge base [] (fun e he => hbase.values he) .empty) hr

/-- The file and the overlays are merged, the file at the bottom. -/
theorem load_eq {path : String} {t : Table} (ht : files.Holds (.ofText path) t)
    (h : files.Overlays (.ofText path) profiles layers) : load files path profiles =
      .ok { root := .map (Tree.mergeAll (t :: layers.map Prod.snd)),
            sources := (FilePath.ofText path).text :: layers.map Prod.fst } := by
  obtain ⟨content, hfind, hload⟩ := ht
  simp only [load, hfind, hload, addProfiles_eq h]
  rfl

/-- Without the file nothing is loaded. Where the file and the overlays that there are hold trees, all of them are
loaded, in order, and a leaf is at a path exactly if one of these trees has it there and no later one covers it. -/
theorem load_leafAt_iff (files : Files) (path : String) (profiles : List String) :
    (files.Lacks (.ofText path) → load files path profiles = .ok {}) ∧
      ∀ t, files.Holds (.ofText path) t →
        (∀ profile ∈ profiles, files.Lacks ((FilePath.ofText path).overlay profile) ∨
          ∃ u, files.Holds ((FilePath.ofText path).overlay profile) u) →
        ∃ s layers, load files path profiles = .ok s ∧ files.Overlays (.ofText path) profiles layers ∧
          s.sources = (FilePath.ofText path).text :: layers.map Prod.fst ∧
          ∀ keys leaf, s.root.LeafAt keys leaf ↔
            ∃ pre layer post, t :: layers.map Prod.snd = pre ++ layer :: post ∧
              (Value.map layer).LeafAt keys leaf ∧ ∀ later ∈ post, ¬(Value.map later).Covers keys := by
  constructor
  · intro hlacks
    rw [Files.Lacks] at hlacks
    simp only [load, hlacks]
  · intro t ht hprofiles
    obtain ⟨layers, hlayers⟩ := Files.exists_overlays hprofiles
    have hdistinct : ∀ u ∈ t :: layers.map Prod.snd, (Value.map u).Distinct :=
      List.forall_mem_cons.2 ⟨ht.distinct, hlayers.distinct⟩
    exact ⟨_, layers, load_eq ht hlayers, hlayers, rfl, fun keys leaf => Tree.leafAt_mergeAll hdistinct⟩

/-- A null over a map and a map over the null, with a profile between them that has no file: the map comes back
with its own entry only. And an overlay whose base is missing. -/
theorem load_leafAt_iff_revived :
    let files : Files := [("c.yaml", some "a: \x7bb: 1, c: 2\x7d\nd: [3]\n"), ("c-x.yaml", some "a: null\n"),
      ("c-y.yaml", some "a: \x7bc: 5\x7d\n"), ("d-x.yaml", some "a: 6\n")]
    let base : Table := [(.text "a", .map [(.text "b", .int 1), (.text "c", .int 2)]), (.text "d", .list [.int 3])]
    files.Holds ["c.yaml"] base ∧ files.Holds ["c-x.yaml"] [(.text "a", .null)] ∧ files.Lacks ["c-z.yaml"] ∧
      files.Holds ["c-y.yaml"] [(.text "a", .map [(.text "c", .int 5)])] ∧ files.Lacks ["d.yaml"] ∧
      load files "d.yaml" ["x"] = .ok {} ∧
      ∃ s, load files "c.yaml" ["x", "z", "y"] = .ok s ∧
        s.sources = ["c.yaml", "c-x.yaml (profile: x)", "c-y.yaml (profile: y)"] ∧
        s.root.LeafAt [.text "a", .text "c"] (.int 5) ∧ s.root.LeafAt [.text "d"] (.list [.int 3]) ∧
        ∀ leaf, ¬s.root.LeafAt [.text "a", .text "b"] leaf := by
  intro files base
  have hc : files.Holds ["c.yaml"] base := Files.holds_name (by simp) (by decide) (by decide) (by decide +kernel)
  have hx : files.Holds ["c-x.yaml"] [(.text "a", .null)] :=
    Files.holds_name (by simp) (by decide) (by decide) (by decide +kernel)
  have hy : files.Holds ["c-y.yaml"] [(.text "a", .map [(.text "c", .int 5)])] :=
    Files.holds_name (by simp) (by decide) (by decide) (by decide +kernel)
  have hz : files.Lacks ["c-z.yaml"] := Files.lacks_name (by simp) (by decide) (by decide) (by decide)
  have hd : files.Lacks ["d.yaml"] := Files.lacks_name (by simp) (by decide) (by decide) (by decide)
  have hpath : FilePath.ofText "c.yaml" = ["c.yaml"] := by decide
  have hpath' : FilePath.ofText "d.yaml" = ["d.yaml"] := by decide
  have hox : FilePath.overlay ["c.yaml"] "x" = ["c-x.yaml"] := by decide
  have hoy : FilePath.overlay ["c.yaml"] "y" = ["c-y.yaml"] := by decide
  have hoz : FilePath.overlay ["c.yaml"] "z" = ["c-z.yaml"] := by decide
  have hlayers : files.Overlays ["c.yaml"] ["x", "z", "y"] [("c-x.yaml (profile: x)", [(.text "a", .null)]),
      ("c-y.yaml (profile: y)", [(.text "a", .map [(.text "c", .int 5)])])] :=
    .holds (hox ▸ hx) (.lacks (hoz ▸ hz) (.holds (hoy ▸ hy) .nil))
  have hprofiles : ∀ profile ∈ ["x", "z", "y"], files.Lacks ((FilePath.ofText "c.yaml").overlay profile) ∨
      ∃ u, files.Holds ((FilePath.ofText "c.yaml").overlay profile) u := by
    rw [hpath]
    simp only [List.forall_mem_cons, List.not_mem_nil, false_implies, implies_true, and_true, hox, hoy, hoz]
    exact ⟨.inr ⟨_, hx⟩, .inl hz, .inr ⟨_, hy⟩⟩
  have hmissing := (load_leafAt_iff files "d.yaml" ["x"]).1 (hpath' ▸ hd)
  obtain ⟨s, layers, hs, hfound, hsources, hleaf⟩ :=
    (load_leafAt_iff files "c.yaml" ["x", "z", "y"]).2 base (hpath ▸ hc) hprofiles
  rw [hpath] at hfound
  cases hlayers.unique hfound
  refine ⟨hc, hx, hz, hy, hd, hmissing, s, hs, ?_, ?_, ?_, ?_⟩
  · rw [hsources, hpath]
    rfl
  · exact (hleaf _ _).2 ⟨[base, _], _, [], rfl, ⟨by decide, rfl⟩, by simp⟩
  · refine (hleaf _ _).2 ⟨[], base, _, rfl, ⟨by decide, rfl⟩, ?_⟩
    simp [Value.covers_map_cons, Table.find?, Scalar.sameKey, Scalar.key]
  · intro leaf h
    obtain ⟨pre, layer, post, heq, ⟨hfind, -⟩, hpost⟩ := (hleaf _ _).1 h
    simp only [List.map_cons, List.map_nil] at heq
    rcases pre with _ | ⟨t, _ | ⟨u, _ | ⟨v, pre⟩⟩⟩ <;>
      simp only [List.cons_append, List.nil_append, List.cons.injEq, List.nil_eq, List.append_eq_nil_iff, reduceCtorEq,
        and_false] at heq
    · obtain ⟨rfl, rfl⟩ := heq
      exact hpost _ List.mem_cons_self (Value.covers_map_cons.2 ⟨.null, rfl, Value.covers_of_isLeaf rfl⟩)
    · obtain ⟨rfl, rfl, rfl⟩ := heq
      cases hfind
    · obtain ⟨rfl, rfl, rfl, rfl⟩ := heq
      cases hfind

end Settings

end JmsNaming

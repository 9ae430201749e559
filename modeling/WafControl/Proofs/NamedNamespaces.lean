import WafControl.Proofs.JsonGrammar
import WafControl.Proofs.JsonRecords
import WafControl.Proofs.RootedPaths

/-!
# Which network namespace a document names

A document about a container is well typed if everything that is read of it is written as it should
be; `Describes` says so without the reader, and what the Linux part then lists. The network
namespace is the first entry of that kind: it is found exactly if the document is well typed and
that entry has a path, and the two ways to fail are told apart (`named_netns`). A path that is found
is taken below the root of the host component by component.
-/

namespace WafControl

/-- How a namespace is written. -/
inductive RuntimeNamespace.WrittenAs (ns : RuntimeNamespace) (j : Json) : Prop
  | record {path : Option Json}
      (members : Json.Record ["type", "path"] [some (.string (some ns.kind)), path] j)
      (path : Json.TextIfAny path ns.path)

namespace RuntimeInfo

/-- The Linux part of a spec lists the namespaces. -/
inductive Lists (spaces : List RuntimeNamespace) (part : Json) : Prop
  | missing (members : Json.Record ["namespaces"] [none] part) (empty : spaces = [])
  | list {xs : List Json} (members : Json.Record ["namespaces"] [some (.array xs)] part)
      (written : List.Forall₂ (fun x ns => ns.WrittenAs x) xs spaces)

/-- The Linux part of a spec, which may be left out or null, lists the namespaces. -/
inductive LinuxIfAny : Option Json → Option (List RuntimeNamespace) → Prop
  | missing : LinuxIfAny none none
  | null : LinuxIfAny (some .null) none
  | part {part : Json} {spaces : List RuntimeNamespace} (lists : Lists spaces part) :
      LinuxIfAny (some part) (some spaces)

/-- A document is well typed, and its spec has no Linux part or one with these namespaces. -/
inductive Describes (j : Json) (linux : Option (List RuntimeNamespace)) : Prop
  | document {spec : Json} {part : Option Json}
      (document : Json.Record ["runtimeSpec"] [some spec] j)
      (spec : Json.Record ["linux"] [part] spec) (linux : LinuxIfAny part linux)

/-- The first namespace of the kind that is wanted. -/
def FirstNetwork (spaces : List RuntimeNamespace) (ns : RuntimeNamespace) : Prop :=
  ∃ before after, spaces = before ++ ns :: after ∧ ns.kind = "network" ∧
    ∀ other ∈ before, other.kind ≠ "network"

/-- No network namespace is listed, or the first one has no path. -/
def Pathless (linux : Option (List RuntimeNamespace)) : Prop :=
  ∀ spaces, linux = some spaces →
    (∀ ns ∈ spaces, ns.kind ≠ "network") ∨
      ∃ ns, FirstNetwork spaces ns ∧ (ns.path = none ∨ ns.path = some "")

/-! ### Reading -/

variable {j : Json} {ns : RuntimeNamespace} {spaces : List RuntimeNamespace}

theorem namespace?_eq_some_iff : namespace? j = some ns ↔ ns.WrittenAs j := by
  unfold namespace?
  rw [Option.bind_eq_bind, Option.bind_eq_some_iff]
  constructor
  · rintro ⟨values, hvalues, h⟩
    split at h
    case h_1 kind path =>
      simp only [Option.bind_eq_bind, Option.bind_eq_some_iff, Json.text?_eq_some_iff,
        Json.optional?_text?_eq_some_iff] at h
      obtain ⟨kind, rfl, path, hpath, h⟩ := h
      cases h
      exact .record (Json.record?_eq_some_iff.1 hvalues) hpath
    case h_2 => cases h
  · rintro ⟨members, hpath⟩
    refine ⟨_, Json.record?_eq_some_iff.2 members, ?_⟩
    simp [Json.text?, Json.optional?_text?_eq_some_iff.2 hpath]

theorem namespaces?_eq_some_iff : namespaces? j = some spaces ↔ Lists spaces j := by
  unfold namespaces?
  rw [Option.bind_eq_bind, Option.bind_eq_some_iff]
  constructor
  · rintro ⟨values, hvalues, h⟩
    have hmembers := Json.record?_eq_some_iff.1 hvalues
    split at h
    case h_1 =>
      cases h
      exact .missing hmembers rfl
    case h_2 xs =>
      exact .list hmembers ((mapM_eq_some_iff.1 h).imp fun _ _ => namespace?_eq_some_iff.1)
    case h_3 => cases h
  · rintro (⟨hmembers, rfl⟩ | ⟨hmembers, hwritten⟩)
    · exact ⟨_, Json.record?_eq_some_iff.2 hmembers, rfl⟩
    · refine ⟨_, Json.record?_eq_some_iff.2 hmembers, ?_⟩
      exact mapM_eq_some_iff.2 (hwritten.imp fun _ _ => namespace?_eq_some_iff.2)

theorem optional?_namespaces?_eq_some_iff {part : Option Json}
    {linux : Option (List RuntimeNamespace)} :
    Json.optional? namespaces? part = some linux ↔ LinuxIfAny part linux := by
  constructor
  · intro h
    match part with
    | none => cases h; exact .missing
    | some .null => cases h; exact .null
    | some (.object members) =>
      obtain ⟨spaces, hspaces, rfl⟩ := Option.map_eq_some_iff.1 h
      exact .part (namespaces?_eq_some_iff.1 hspaces)
    | some (.array xs) =>
      obtain ⟨spaces, hspaces, rfl⟩ := Option.map_eq_some_iff.1 h
      exact .part (namespaces?_eq_some_iff.1 hspaces)
  · rintro (_ | _ | lists)
    · rfl
    · rfl
    · -- a null lists nothing, so the part is read as one
      have hspaces := namespaces?_eq_some_iff.2 lists
      cases lists with
      | missing members => cases members <;> exact congrArg (Option.map some) hspaces
      | list members => cases members <;> exact congrArg (Option.map some) hspaces

theorem document?_eq_some_iff :
    document? j = some spaces ↔ ∃ linux, Describes j linux ∧ linux.getD [] = spaces := by
  unfold document?
  rw [Option.bind_eq_bind, Option.bind_eq_some_iff]
  constructor
  · rintro ⟨values, hvalues, h⟩
    split at h
    case h_1 spec =>
      unfold spec? at h
      rw [Option.bind_eq_bind, Option.bind_eq_some_iff] at h
      obtain ⟨parts, hparts, h⟩ := h
      split at h
      case h_1 part =>
        rw [Option.bind_eq_bind, Option.bind_eq_some_iff] at h
        obtain ⟨linux, hlinux, h⟩ := h
        cases h
        exact ⟨linux, .document (Json.record?_eq_some_iff.1 hvalues)
          (Json.record?_eq_some_iff.1 hparts) (optional?_namespaces?_eq_some_iff.1 hlinux), rfl⟩
      case h_2 => cases h
    case h_2 => cases h
  · rintro ⟨linux, ⟨hdocument, hspec, hlinux⟩, rfl⟩
    refine ⟨_, Json.record?_eq_some_iff.2 hdocument, ?_⟩
    simp [spec?, Json.record?_eq_some_iff.2 hspec, optional?_namespaces?_eq_some_iff.2 hlinux]

/-! ### Searching -/

variable {linux : Option (List RuntimeNamespace)} {path : String}

theorem find?_eq_some_iff :
    (spaces.find? fun ns => ns.kind == "network") = some ns ↔ FirstNetwork spaces ns := by
  rw [List.find?_eq_some_iff_append]
  simp only [beq_iff_eq, Bool.not_eq_eq_eq_not, Bool.not_true, beq_eq_false_iff_ne, FirstNetwork]
  constructor
  · rintro ⟨hkind, before, after, hsplit, hbefore⟩
    exact ⟨before, after, hsplit, hkind, hbefore⟩
  · rintro ⟨before, after, hsplit, hkind, hbefore⟩
    exact ⟨hkind, before, after, hsplit, hbefore⟩

theorem networkPath?_eq_some_iff :
    networkPath? spaces = some path ↔
      ∃ ns, FirstNetwork spaces ns ∧ ns.path = some path ∧ path ≠ "" := by
  simp only [networkPath?, Option.filter_eq_some_iff, Option.bind_eq_some_iff, find?_eq_some_iff,
    bne_iff_ne]
  constructor
  · rintro ⟨⟨ns, hfirst, hpath⟩, hne⟩
    exact ⟨ns, hfirst, hpath, hne⟩
  · rintro ⟨ns, hfirst, hpath, hne⟩
    exact ⟨⟨ns, hfirst, hpath⟩, hne⟩

/-- Either no network namespace is listed, or there is a first one. -/
theorem none_or_firstNetwork (spaces : List RuntimeNamespace) :
    (∀ ns ∈ spaces, ns.kind ≠ "network") ∨ ∃ ns, FirstNetwork spaces ns := by
  cases h : spaces.find? fun ns => ns.kind == "network" with
  | none => exact .inl fun ns hns => by simpa using List.find?_eq_none.1 h ns hns
  | some ns => exact .inr ⟨ns, find?_eq_some_iff.1 h⟩

theorem FirstNetwork.mem (h : FirstNetwork spaces ns) : ns ∈ spaces ∧ ns.kind = "network" := by
  obtain ⟨before, after, rfl, hkind, -⟩ := h
  exact ⟨List.mem_append_right _ List.mem_cons_self, hkind⟩

theorem FirstNetwork.unique {other : RuntimeNamespace} (h : FirstNetwork spaces ns)
    (h' : FirstNetwork spaces other) : ns = other :=
  Option.some.inj ((find?_eq_some_iff.2 h).symm.trans (find?_eq_some_iff.2 h'))

theorem networkPath?_eq_none_iff : networkPath? (linux.getD []) = none ↔ Pathless linux := by
  rw [Option.eq_none_iff_forall_ne_some]
  simp only [ne_eq, networkPath?_eq_some_iff, not_exists, not_and, not_not, Pathless]
  constructor
  · rintro h spaces rfl
    refine (none_or_firstNetwork spaces).imp_right fun ⟨ns, hns⟩ => ⟨ns, hns, ?_⟩
    cases hpath : ns.path with
    | none => exact .inl rfl
    | some path => exact .inr (congrArg some (h path ns hns hpath))
  · intro h path ns hns hpath
    match linux with
    | none => exact absurd hns.mem.1 List.not_mem_nil
    | some spaces =>
      rcases h spaces rfl with hnone | ⟨first, hfirst, hpathless⟩
      · exact absurd hns.mem.2 (hnone ns hns.mem.1)
      · cases hns.unique hfirst
        rcases hpathless with hmissing | hempty
        · rw [hmissing] at hpath
          cases hpath
        · exact Option.some.inj (hpath.symm.trans hempty)

/-! ### The namespace of a container -/

/-- The text is a well-typed document, whose spec has no Linux part or one with these
namespaces. -/
def TextDescribes (text : String) (linux : Option (List RuntimeNamespace)) : Prop :=
  ∃ j, Json.Document text j ∧ Describes j linux

variable {text : String}

theorem read_eq_some_iff :
    (Json.parse text).bind document? = some spaces ↔
      ∃ linux, TextDescribes text linux ∧ linux.getD [] = spaces := by
  simp only [Option.bind_eq_some_iff, document?_eq_some_iff, Json.parse_eq_some_iff, TextDescribes]
  constructor
  · rintro ⟨j, hj, linux, hlinux, hspaces⟩
    exact ⟨linux, ⟨j, hj, hlinux⟩, hspaces⟩
  · rintro ⟨linux, ⟨j, hj, hlinux⟩, hspaces⟩
    exact ⟨j, hj, linux, hlinux, hspaces⟩

theorem networkNamespace_of_not_describes (h : ∀ linux, ¬ TextDescribes text linux) :
    networkNamespace text = .error .invalidSpec := by
  have hnone : (Json.parse text).bind document? = none :=
    Option.eq_none_iff_forall_ne_some.2 fun spaces hspaces => by
      obtain ⟨linux, hlinux, -⟩ := read_eq_some_iff.1 hspaces
      exact h linux hlinux
  rw [networkNamespace, hnone]

theorem networkNamespace_of_path (h : TextDescribes text linux)
    (hpath : networkPath? (linux.getD []) = some path) : networkNamespace text = .ok path := by
  simp only [networkNamespace, read_eq_some_iff.2 ⟨linux, h, rfl⟩, hpath]

theorem networkNamespace_of_pathless (h : TextDescribes text linux) (hpathless : Pathless linux) :
    networkNamespace text = .error .missingNetns := by
  simp only [networkNamespace, read_eq_some_iff.2 ⟨linux, h, rfl⟩,
    networkPath?_eq_none_iff.2 hpathless]

/-- A text describes no spec, or one whose Linux part has a path for the network, or one that has
none. -/
theorem describes_cases (text : String) :
    (∀ linux, ¬ TextDescribes text linux) ∨
      ∃ linux, TextDescribes text linux ∧
        ((∃ path, networkPath? (linux.getD []) = some path) ∨ Pathless linux) := by
  by_cases h : ∃ linux, TextDescribes text linux
  · obtain ⟨linux, hlinux⟩ := h
    refine .inr ⟨linux, hlinux, ?_⟩
    cases hpath : networkPath? (linux.getD []) with
    | none => exact .inr (networkPath?_eq_none_iff.1 hpath)
    | some path => exact .inl ⟨path, rfl⟩
  · exact .inl (not_exists.1 h)

theorem networkNamespace_eq_ok_iff :
    networkNamespace text = .ok path ↔
      ∃ spaces ns, TextDescribes text (some spaces) ∧ FirstNetwork spaces ns ∧
        ns.path = some path ∧ path ≠ "" := by
  constructor
  · intro h
    rcases describes_cases text with hnone | ⟨linux, hlinux, ⟨found, hfound⟩ | hpathless⟩
    · rw [networkNamespace_of_not_describes hnone] at h
      cases h
    · rw [networkNamespace_of_path hlinux hfound] at h
      cases h
      obtain ⟨ns, hns, hpath⟩ := networkPath?_eq_some_iff.1 hfound
      match linux with
      | none => exact absurd hns.mem.1 List.not_mem_nil
      | some spaces => exact ⟨spaces, ns, hlinux, hns, hpath⟩
    · rw [networkNamespace_of_pathless hlinux hpathless] at h
      cases h
  · rintro ⟨spaces, ns, hspaces, hns, hpath⟩
    exact networkNamespace_of_path hspaces (networkPath?_eq_some_iff.2 ⟨ns, hns, hpath⟩)

theorem networkNamespace_eq_missingNetns_iff :
    networkNamespace text = .error .missingNetns ↔
      ∃ linux, TextDescribes text linux ∧ Pathless linux := by
  constructor
  · intro h
    rcases describes_cases text with hnone | ⟨linux, hlinux, ⟨found, hfound⟩ | hpathless⟩
    · rw [networkNamespace_of_not_describes hnone] at h
      cases h
    · rw [networkNamespace_of_path hlinux hfound] at h
      cases h
    · exact ⟨linux, hlinux, hpathless⟩
  · rintro ⟨linux, hlinux, hpathless⟩
    exact networkNamespace_of_pathless hlinux hpathless

theorem networkNamespace_eq_invalidSpec_iff :
    networkNamespace text = .error .invalidSpec ↔ ∀ linux, ¬ TextDescribes text linux := by
  refine ⟨fun h linux hlinux => ?_, networkNamespace_of_not_describes⟩
  simp only [networkNamespace, read_eq_some_iff.2 ⟨linux, hlinux, rfl⟩] at h
  split at h
  · cases h
  · cases h

/-- What a lookup finds is the namespace that the runtime's document names, below the root. -/
theorem lookupNetns_eq_ok_iff {c : ContainerRef} {root : Option String}
    {entries : List (String × String)} {resolved : String} :
    (c.lookupNetns root (.info entries)).2 = .ok resolved ↔
      ∃ text path, entries.lookup "info" = some text ∧ networkNamespace text = .ok path ∧
        resolved = HostRoot.rooted root path := by
  simp only [ContainerRef.lookupNetns]
  cases entries.lookup "info" with
  | none => simp
  | some text =>
      cases h : networkNamespace text with
      | error e => simp [h, Except.map]
      | ok path => simp [h, Except.map, eq_comm]

/-- The path of the first network namespace is found exactly if the document is well typed and that
entry has one; a well-typed document without it and one that is not well typed are told apart. What
was found is taken below the root of the host: an absolute path then consists of the components of
the root and its own, so that paths with different components stay different. -/
theorem named_netns (text : String) (c : ContainerRef) (root own other : String) :
    (∀ path, networkNamespace text = .ok path ↔
        ∃ spaces ns, TextDescribes text (some spaces) ∧ FirstNetwork spaces ns ∧
          ns.path = some path ∧ path ≠ "") ∧
      (networkNamespace text = .error .missingNetns ↔
        ∃ linux, TextDescribes text linux ∧ Pathless linux) ∧
      (networkNamespace text = .error .invalidSpec ↔ ∀ linux, ¬ TextDescribes text linux) ∧
      (∀ root entries resolved, (c.lookupNetns root (.info entries)).2 = .ok resolved ↔
        ∃ text path, entries.lookup "info" = some text ∧ networkNamespace text = .ok path ∧
          resolved = HostRoot.rooted root path) ∧
      HostRoot.rooted none own = own ∧
      (∃ components, Path.components ("/" ++ own) = .root :: components ∧
        Path.components (HostRoot.rooted (some root) ("/" ++ own)) =
          Path.components root ++ components) ∧
      (Path.components (HostRoot.rooted (some root) ("/" ++ own)) =
          Path.components (HostRoot.rooted (some root) ("/" ++ other)) ↔
        Path.components ("/" ++ own) = Path.components ("/" ++ other)) := by
  refine ⟨fun path => networkNamespace_eq_ok_iff, networkNamespace_eq_missingNetns_iff,
    networkNamespace_eq_invalidSpec_iff, fun root entries resolved => lookupNetns_eq_ok_iff, rfl,
    HostRoot.components_below root (Path.isAbsolute_slash own), ?_⟩
  obtain ⟨these, hthese, hbelow⟩ := HostRoot.components_below root (Path.isAbsolute_slash own)
  obtain ⟨those, hthose, hbelow'⟩ := HostRoot.components_below root (Path.isAbsolute_slash other)
  rw [HostRoot.rooted, HostRoot.rooted, hbelow, hbelow', hthese, hthose, List.append_cancel_left_eq,
    List.cons.injEq, and_iff_right rfl]

end RuntimeInfo

end WafControl

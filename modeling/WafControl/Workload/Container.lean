import WafControl.Text.Quoted

/-!
# Container references

A container is named by the runtime that owns it and the id the runtime gave it, written
`runtime://id`. Reading splits at the first `://`, so that an id may hold further ones; an empty id
is no id. Writing undoes reading: `ContainerRef.parse_display`.
-/

namespace WafControl

/-- The container runtimes a relay can be injected under. -/
inductive ContainerRuntime where
  | containerd
  | crio
  deriving DecidableEq, Repr

namespace ContainerRuntime

/-- The name that stands before `://`. -/
def name : ContainerRuntime → String
  | containerd => "containerd"
  | crio => "cri-o"

/-- The address of the runtime's control socket. -/
def socket : ContainerRuntime → String
  | containerd => "unix:///run/containerd/containerd.sock"
  | crio => "unix:///var/run/crio/crio.sock"

def ofName? (s : List Char) : Option ContainerRuntime :=
  if s = containerd.name.toList then some containerd
  else if s = crio.name.toList then some crio
  else none

end ContainerRuntime

/-- A container id together with the runtime that owns it. -/
structure ContainerRef where
  runtime : ContainerRuntime
  id : String
  deriving DecidableEq, Repr

/-- Why a text names no container. -/
inductive ContainerRefError where
  /-- There is no `://` in the text, or nothing follows the first one. -/
  | missingPrefix (text : String)
  /-- The text before `://` names no runtime. -/
  | unsupportedRuntime (name : String)
  deriving DecidableEq, Repr

namespace ContainerRefError

def message : ContainerRefError → String
  | missingPrefix text => "container id " ++ Text.quoted text ++ " has no runtime prefix"
  | unsupportedRuntime name => "unsupported container runtime " ++ Text.quoted name

end ContainerRefError

namespace ContainerRef

/-- Splits a text around its first `://`. -/
def splitScheme : List Char → Option (List Char × List Char)
  | ':' :: '/' :: '/' :: rest => some ([], rest)
  | [] => none
  | c :: rest => (splitScheme rest).map fun (before, after) => (c :: before, after)

def parse (s : String) : Except ContainerRefError ContainerRef :=
  match splitScheme s.toList with
  | some (scheme, c :: id) =>
    match ContainerRuntime.ofName? scheme with
    | some runtime => .ok ⟨runtime, String.ofList (c :: id)⟩
    | none => .error (.unsupportedRuntime (String.ofList scheme))
  | _ => .error (.missingPrefix s)

def display (c : ContainerRef) : String := c.runtime.name ++ "://" ++ c.id

theorem splitScheme_containerd (id : List Char) :
    splitScheme (ContainerRuntime.containerd.name.toList ++ "://".toList ++ id) =
      some (ContainerRuntime.containerd.name.toList, id) := by
  simp [ContainerRuntime.name, splitScheme]

theorem splitScheme_crio (id : List Char) :
    splitScheme (ContainerRuntime.crio.name.toList ++ "://".toList ++ id) =
      some (ContainerRuntime.crio.name.toList, id) := by
  simp [ContainerRuntime.name, splitScheme]

/-- Reading a written reference gives it back, unless its id is empty. -/
theorem parse_display (c : ContainerRef) (h : c.id ≠ "") : parse c.display = .ok c := by
  obtain ⟨runtime, id⟩ := c
  have hid : id.toList ≠ [] := fun h' => h (String.toList_inj.1 (by simpa using h'))
  obtain ⟨x, xs, hx⟩ := List.exists_cons_of_ne_nil hid
  have hofList : String.ofList (x :: xs) = id := by rw [← hx, String.ofList_toList]
  cases runtime with
  | containerd =>
      have hs := splitScheme_containerd id.toList
      rw [hx] at hs
      simp only [parse, display, String.toList_append, hx, hs]
      simp [ContainerRuntime.ofName?, hofList]
  | crio =>
      have hs := splitScheme_crio id.toList
      rw [hx] at hs
      simp only [parse, display, String.toList_append, hx, hs]
      simp [ContainerRuntime.ofName?, ContainerRuntime.name, hofList]

end ContainerRef

end WafControl

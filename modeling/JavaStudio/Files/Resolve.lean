import JavaStudio.Files.Basic

/-!
# Resolved paths

`Files.resolve` gives the path from the root to where a path leads, free of links and `..`. The way is
spelled out name by name from the path as it is written, so that a relative one stays relative until
the end. Of a link that is met again while its own target is being traced, the rest is left as it
stands; such a way is no failure unless the system finds the circle too.
-/

namespace JavaStudio

/-- The links met so far under the paths that name them, with the path that each was found to lead to,
or nothing while its target is being traced. -/
abbrev Met := List (Path × Option Path)

/-- What is known of a link. -/
def known (p : Path) : Met → Option (Option Path)
  | [] => none
  | (q, v) :: ms => if q = p then some v else known p ms

/-- A traced way: its path, whether it is free of circles, and the links met. -/
structure Traced where
  path : Path
  free : Bool
  met : Met

/-- The path that names between slashes spell. -/
def pathOfNames (names : List String) : Path := Path.ofString ("/".intercalate names)

namespace Files

/-- The target of the link that a path names, if it names one. A look-up that fails finds none. -/
def linkAt (fs : Files) (p : Path) : Except Failure (Option String) :=
  match fs.spot .entry p with
  | .ok (.entry _ (.link target)) => .ok (some target)
  | .error .embeddedNull => .error .embeddedNull
  | _ => .ok none

/-- Spells out names from a path on without links, and hands the target of a new link over. -/
def traceNames (fs : Files) (onLink : Path → String → Met → Except Failure Traced) (p : Path)
    (met : Met) : List String → Except Failure Traced
  | [] => .ok ⟨p, true, met⟩
  | n :: ns =>
    if n = "" || n = "." then traceNames fs onLink p met ns
    else if n = ".." then traceNames fs onLink p.up met ns
    else
      let link := p.child n
      match fs.linkAt link with
      | .error e => .error e
      | .ok none => traceNames fs onLink link met ns
      | .ok (some target) =>
        match known link met with
        | some (some there) => traceNames fs onLink there met ns
        | some none => .ok ⟨link.join (pathOfNames ns), false, met⟩
        | none => match onLink p target ((link, none) :: met) with
          | .error e => .error e
          | .ok t =>
            if t.free then traceNames fs onLink t.path ((link, some t.path) :: t.met) ns
            else .ok ⟨t.path.join (pathOfNames ns), false, t.met⟩

/-- Spells out a text from a path on, with targets nested so deep at most. -/
def trace (fs : Files) : Nat → Path → String → Met → Except Failure Traced
  | 0, _, _, _ => .error (.tooDeep .link)
  | depth + 1, p, text, met =>
    fs.traceNames (fun q target m => fs.trace depth q target m)
      (if startsAtRoot text then ⟨.root, []⟩ else p) met (namesOf text)

/-- The path from the root to where a path leads, free of links and `..`. Names that nothing stands
at are kept. -/
def resolve (fs : Files) (p : Path) : Except Failure Path :=
  match fs.trace (fs.machine.nesting + 1) ⟨.here, []⟩ p.toString [] with
  | .error e => .error e
  | .ok t =>
    let q := (fs.absolute t.path).normalized
    match fs.stat q with
    | .error (.file .tooManyLinks name) => .error (.linkLoop name)
    | .error .embeddedNull => .error .embeddedNull
    | _ => .ok q

/-- The home that a name with a leading tilde stands for: by itself the current one, else that of the
user named after it. Only the administrator is known to every machine. -/
def homeOf (fs : Files) (name : String) : Except Failure String :=
  if name = "~" then .ok fs.home
  else if name = "~root" then .ok "/root"
  else .error (if name.toList.contains '\x00' then .embeddedNull else .unknownHome)

/-- A path with a home in place of a leading tilde. -/
def expandHome (fs : Files) (p : Path) : Except Failure Path :=
  match p.anchor, p.parts with
  | .here, n :: ns =>
    if n.toList.head? = some '~' then
      (fs.homeOf n).map fun home => (Path.ofString home).join ⟨.here, ns⟩
    else .ok p
  | _, _ => .ok p

/-- The resolved form of a path that may begin with a tilde. -/
def locate (fs : Files) (p : Path) : Except Failure Path :=
  match fs.expandHome p with
  | .error e => .error e
  | .ok p => fs.resolve p

end Files

end JavaStudio

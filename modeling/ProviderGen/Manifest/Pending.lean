import ProviderGen.Manifest.Basic
import ProviderGen.OrderedMap.Basic

/-!
Example manifests that wait to be stored. Paths that differ only in repeated slashes and dots are
one path: the last manifest for it stands, under its first spelling.
-/

namespace ProviderGen

abbrev PendingManifests := OrderedMap (List HostPath.Component) (HostPath × Manifest)

namespace PendingManifests

def add (pending : PendingManifests) (path : HostPath) (manifest : Manifest) : PendingManifests :=
  pending.alter path.components fun
    | some (spelling, _) => (spelling, manifest)
    | none => (path, manifest)

def files (pending : PendingManifests) : List (HostPath × String) :=
  pending.values.map fun (path, manifest) => (path, manifest.text)

end PendingManifests

end ProviderGen

import Provisioner.Resource.Adapter
/-!
# Resources without an object

An echo keeps any JSON state as it is and makes no call. It shows how the provider treats a resource
apart from what a real one does: a null state reads as removed, every other state as found.
-/

namespace Provisioner.Echo

open Json (Codec)

/-- Whether a state stands for an object at all. -/
def refresh : Json → Refreshed Json
  | .null => .removed
  | state => .found state

def adapter (typeName : String) : Adapter Json where
  typeName := typeName
  codec := Codec.value 0
  create _ plan := .done (.ok plan)
  read state := .done (.ok (refresh state))
  update _ _ plan := .done (.ok plan)
  delete _ := .done (.ok ())
  importState := importUnsupported typeName

def lookupAdapter (typeName : String) : LookupAdapter Json where
  typeName := typeName
  codec := Codec.value 0
  read config := .done (.ok config)

end Provisioner.Echo

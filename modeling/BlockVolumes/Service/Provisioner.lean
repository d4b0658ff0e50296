import BlockVolumes.Csi.Controller
import BlockVolumes.Service.Creation
import BlockVolumes.Service.Growing
import BlockVolumes.Service.Reporting

/-
  The controller plugin: volumes are created, attached and
  enlarged in the backend. No state of a volume is kept from
  one call to the next; each call looks at the backend anew.

  Key definitions include:
    * `Service.identity`
    * `Service.provisioner`
-/

namespace BlockVolumes

namespace Service

/- What the plugins say about themselves. -/
def identity
    (settings : Settings) : Csi.Identity :=
  { name := settings.name
    version := settings.version
    manifest :=
      if settings.region.isEmpty then []
      else [("region", settings.region)]
    placed := true
    expansion :=
      if settings.expansionEnabled then .online else .never }

/- The controller plugin. -/
def provisioner
    (settings : Settings) : Csi.Controller Host :=
  { identity := identity settings
    features :=
      [.createAndDelete, .attachAndDetach, .list, .listNodes,
        .get, .conditions] ++
      (if settings.expansionEnabled then [.expand] else [])
    create := some (Creation.create settings)
    delete := some Creation.delete
    publish := some (Attaching.publish settings)
    unpublish := some (Attaching.unpublish settings)
    validate := Reporting.validate
    list := some (Reporting.list settings)
    expand := some (Growing.expand settings)
    get := some (Reporting.get settings) }

end Service

end BlockVolumes

import YamlSchema.Schema.MetaSchema.Draft4
import YamlSchema.Schema.MetaSchema.Draft6
import YamlSchema.Schema.MetaSchema.Draft7
import YamlSchema.Schema.MetaSchema.Draft2019
import YamlSchema.Schema.MetaSchema.Draft2020

/-!
# The schemas of schemas of all drafts
-/

namespace YamlSchema.Schema.MetaSchema

/-- The documents of each draft, that of the whole draft first. -/
def published : List (Draft × Tree) :=
  [(.draft4, Draft4.document), (.draft6, Draft6.document), (.draft7, Draft7.document)] ++
    (Draft2019.documents.map fun t => (.draft2019, t)) ++ Draft2020.documents.map fun t => (.draft2020, t)

end YamlSchema.Schema.MetaSchema

/-!
The operations of the hosting service, as schema text.
-/

set_option autoImplicit false

namespace TypedQuery.Hosting

def schemaLines : List String :=
  ["# Subset of the GraphSchema.io management API used by this crate.",
    "",
    "scalar DateTime",
    "",
    "type Environment \x7b",
    "    id: ID!",
    "    createdAt: DateTime",
    "    name: String",
    "\x7d",
    "",
    "input EnvironmentReference \x7b",
    "    id: ID!",
    "\x7d",
    "",
    "type DgraphCertificates \x7b",
    "    caCert: String",
    "    clientCert: String",
    "    clientKey: String",
    "\x7d",
    "",
    "type DgraphInstance \x7b",
    "    dgraphId: ID!",
    "    createdAt: DateTime",
    "    replicas: Int",
    "    shards: Int",
    "    storageGB: Int",
    "    env: Environment",
    "    certificates: DgraphCertificates",
    "\x7d",
    "",
    "input DgraphInstanceInput \x7b",
    "    replicas: Int!",
    "    shards: Int!",
    "    storageGB: Int!",
    "    env: EnvironmentReference!",
    "\x7d",
    "",
    "type Query \x7b",
    "    getEnvironment(id: ID!): Environment",
    "    queryEnvironment(name: [String!]): [Environment!]!",
    "    getDgraphInstance(dgraphId: ID!): DgraphInstance",
    "    queryDgraphInstance(environmentId: ID!): DgraphInstance",
    "\x7d",
    "",
    "type Mutation \x7b",
    "    addDgraphInstance(input: DgraphInstanceInput!): DgraphInstance!",
    "    deleteDgraphInstance(dgraphId: ID!): String",
    "\x7d",
    ""]

def schemaText : String := String.intercalate "\n" schemaLines

end TypedQuery.Hosting

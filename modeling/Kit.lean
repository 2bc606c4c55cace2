import Kit.Basic
import Kit.Database.Classify
import Kit.Database.Client
import Kit.Database.Body
import Kit.Database.Nesting
import Kit.Database.Exits
import Kit.Database.Blocks
import Kit.Connect
import Kit.Lifecycle
import Kit.Cache
import Kit.Health
import Kit.Migrator.Tool
import Kit.Migrator.Schema
import Kit.Migrator.Contract
import Kit.Migrator.Faults
import Kit.Migrator.Done
import Kit.Migrator.Runs
import Kit.Migrator.Legacy
import Kit.Migrator.New
import Kit.Dsn
import Kit.Regexp
import Kit.Server
import Kit.Recover

import MetricSeries.Template.Basic

/-!
# Built-in templates

Every monitored database carries three categories: intervals of activity, snapshots of the virtual
machine, and garbage collection.
-/

namespace MetricSeries.Template.Builtin

/-- The changeset that adds the SQL timing columns to intervals. -/
def sqlDurationChangeset : String := "0002.0"

/-- The changeset that adds the CPU load columns to snapshots. -/
def cpuLoadChangeset : String := "0003.0"

/-- A reading at a point in time: averaged, unless an extreme or a total is asked for. -/
def gauge (name column : String) (kind : NumericKind) : Field :=
  Field.new name column .average
    |>.offer .average (.average column)
    |>.offer .max (.max column kind)
    |>.offer .min (.min column kind)
    |>.offer .sum (.sum column kind)

/-- A count: added up, unless an extreme is asked for. -/
def counter (name column : String) : Field :=
  Field.new name column .sum
    |>.offer .sum (.sum column .integer)
    |>.offer .max (.max column .integer)
    |>.offer .min (.min column .integer)

def perMinute (name column counterColumn : String) : Field :=
  Field.new name column .natural
    |>.offer .natural (.perMinute counterColumn)
    |>.offer .max (.max column .float)
    |>.offer .min (.min column .float)

def interval : Template where
  name := "Interval"
  fields :=
    [ Field.new "maxActiveThreads" "MaxActiveThreads" .max
        |>.offer .max (.max "MaxActiveThreads" .integer)
        |>.offer .min (.min "MaxActiveThreads" .integer)
        |>.offer .average (.average "MaxActiveThreads")
        |>.offer .sum (.sum "MaxActiveThreads" .integer),
      Field.new "maxDuration" "MaxDuration" .max
        |>.offer .max (.max "MaxDuration" .integer)
        |>.offer .min (.min "MaxDuration" .integer),
      Field.new "minDuration" "MinDuration" .min
        |>.offer .min (.min "MinDuration" .integer)
        |>.offer .max (.max "MinDuration" .integer),
      Field.new "avgDuration" "AverageDuration" .natural
        |>.offer .natural (.naturalAverage "DurationSum" "TotalCompletions")
        |>.offer .average (.average "AverageDuration")
        |>.offer .max (.max "AverageDuration" .float)
        |>.offer .min (.min "AverageDuration" .float),
      perMinute "throughputPerMinute" "NormalizedThroughputPerMinute" "TotalCompletions",
      counter "totalHits" "TotalHits",
      counter "totalCompletions" "TotalCompletions",
      counter "durationSum" "DurationSum" |>.internal,
      Field.new "maxSQLDuration" "MaxSQLDuration" .max
        |>.offer .max (.max "MaxSQLDuration" .integer)
        |>.offer .min (.min "MaxSQLDuration" .integer)
        |>.requires sqlDurationChangeset,
      Field.new "avgSQLDuration" "AverageSQLDuration" .natural
        |>.offer .natural (.naturalAverage "SQLDurationSum" "TotalCompletions")
        |>.offer .average (.average "AverageSQLDuration")
        |>.offer .max (.max "AverageSQLDuration" .float)
        |>.requires sqlDurationChangeset,
      counter "sqlDurationSum" "SQLDurationSum" |>.internal |>.requires sqlDurationChangeset ]

def jvm : Template where
  name := "JVM"
  fields :=
    [ gauge "currentClassLoadCount" "CurrentClassLoadCount" .integer,
      gauge "pendingClassFinalizationCount" "PendingClassFinalizationCount" .integer,
      gauge "currentThreadCount" "CurrentThreadCount" .integer,
      gauge "heapMemUsedMB" "HeapMemUsedMB" .float,
      gauge "heapMemMaxMB" "HeapMemMaxMB" .float |>.internal,
      Field.new "heapMemUsedPercent" "HeapMemUsedMB" .natural
        |>.offer .natural (.percent "HeapMemUsedMB" "HeapMemMaxMB"),
      gauge "nonHeapMemUsedMB" "NonHeapMemUsedMB" .float,
      perMinute "classesLoadedPerMinute" "ClassesLoadedPerMinute" "ClassLoadCountInPeriod",
      gauge "systemCpuLoad" "SystemCpuLoad" .float |>.requires cpuLoadChangeset,
      gauge "processCpuLoad" "ProcessCpuLoad" .float |>.requires cpuLoadChangeset ]

def garbageCollection : Template where
  name := "GarbageCollection"
  fields :=
    [ counter "numCollections" "NumCollections",
      counter "collectionMillis" "CollectionMillis",
      perMinute "numCollectionsPerMinute" "NumCollectionsPerMinute" "NumCollections",
      perMinute "collectionMillisPerMinute" "CollectionMillisPerMinute" "CollectionMillis" ]

def templates : List Template := [interval, jvm, garbageCollection]

end MetricSeries.Template.Builtin

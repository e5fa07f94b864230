import KvServer.Absl
import KvServer.Readers.Shards
import KvServer.Readers.DoubleShardSize
import KvServer.Readers.RecordFile
import KvServer.Readers.Concurrent
import KvServer.Protobuf
import KvServer.Json
import KvServer.Udf.Client
import KvServer.Udf.GetValuesHook
import KvServer.Pas.RetrievalRequestBuilder
import KvServer.RequestHandler.GetValuesAdapter
import KvServer.RequestHandler.GetValuesHandler
import KvServer.Server.ServerInitializer
import KvServer.BlobStorage.ListBlobs
import KvServer.CloudConfig.ParameterClient
